import SupportGuard.Foundation.FencedLanes
import SupportGuard.Services.RuntimeFrames

/-! # Ticket lanes

The jobs of a tenant's ticket form one lane of `Foundation.FencedLanes`. Every call of
the job repository that returns makes steps of that system. -/

namespace SupportGuard

open Foundation Program
open Foundation.FencedLanes (Phase Entry Step Steps Fenced)

/-! ## The lanes of a database -/

def JobStatus.phase : JobStatus → Phase
  | .queued | .retryWait => .waiting
  | .leased => .leased
  | .succeeded | .dead => .finished

abbrev LaneEntry := Entry String String (String × String) Instant

abbrev Lanes := FencedLanes.State String String (String × String) Instant

def RuntimeJob.entry (job : RuntimeJob) : LaneEntry where
  id := job.id
  run := job.runId
  lane := (job.tenantId, job.ticketId)
  sequence := job.dispatchSequence
  phase := job.status.phase
  token := job.fencingToken
  deadline := job.leaseExpiresAt

/-- What the lanes depend on. -/
structure LaneView where
  jobs : List RuntimeJob
  clock : Instant
  numbering : String × String → Option Nat
  home : String → Option (String × String)
  holder : String → Option (String × Nat)

def Database.numbering (database : Database) (lane : String × String) : Option Nat :=
  (database.ticketOf? lane.1 lane.2).map SupportTicket.nextDispatchSequence

def Database.laneView (database : Database) : LaneView where
  jobs := database.jobs
  clock := database.clock
  numbering := database.numbering
  home runId := (Table.find AgentRun.id database.runs runId).map fun run =>
    (run.tenantId, run.ticketId)
  holder runId := (Table.find AgentRun.id database.runs runId).bind AgentRun.holder

def LaneView.lanes (view : LaneView) (claims : List String) : Lanes where
  now := view.clock
  entries := view.jobs.map RuntimeJob.entry
  last lane := (view.numbering lane).getD 0
  home := view.home
  holder := view.holder
  claims := claims

def Database.lanes (database : Database) (claims : List String) : Lanes :=
  database.laneView.lanes claims

variable {before after : Database}

theorem lanes_congr (view : after.laneView = before.laneView) (claims : List String) :
    after.lanes claims = before.lanes claims := by
  simp only [Database.lanes, view]

/-! ## Changes of rows -/

theorem ticketOf?_updateTicket (database : Database) (ticketId : String)
    {change : SupportTicket → SupportTicket} (id : ∀ ticket, (change ticket).id = ticket.id)
    (tenantId : ∀ ticket, (change ticket).tenantId = ticket.tenantId)
    (tenant wanted : String) :
    (database.updateTicket ticketId change).ticketOf? tenant wanted =
      (database.ticketOf? tenant wanted).map fun ticket =>
        if wanted = ticketId then change ticket else ticket := by
  unfold Database.ticketOf? Database.updateTicket
  rw [Table.find_update id]
  cases Table.find SupportTicket.id database.tickets wanted with
  | none => rfl
  | some ticket =>
      by_cases same : wanted = ticketId
      · simp [same, Option.filter, tenantId, apply_ite]
      · simp [same]

theorem numbering_updateTicket (database : Database) (ticketId : String)
    {change : SupportTicket → SupportTicket} (keeps : KeepsNumbering change) :
    (database.updateTicket ticketId change).numbering = database.numbering := by
  funext lane
  unfold Database.numbering
  rw [ticketOf?_updateTicket database ticketId keeps.id keeps.tenantId, Option.map_map]
  congr 1
  funext ticket
  simp only [Function.comp_apply]
  split
  · exact keeps.next ticket
  · rfl

theorem laneView_updateTicket (database : Database) (ticketId : String)
    {change : SupportTicket → SupportTicket} (keeps : KeepsNumbering change) :
    (database.updateTicket ticketId change).laneView = database.laneView := by
  unfold Database.laneView
  rw [numbering_updateTicket database ticketId keeps]
  rfl

theorem home_updateRun (database : Database) (runId : String)
    {change : AgentRun → AgentRun} (keeps : KeepsPlace change) :
    (database.updateRun runId change).laneView.home = database.laneView.home := by
  funext wanted
  simp only [Database.laneView, Database.updateRun]
  rw [Table.find_update keeps.id, Option.map_map]
  congr 1
  funext run
  simp only [Function.comp_apply]
  split
  · rw [keeps.tenantId, keeps.ticketId]
  · rfl

theorem laneView_updateRun (database : Database) (runId : String)
    {change : AgentRun → AgentRun} (keeps : KeepsPlace change)
    (holder : ∀ run, (change run).holder = run.holder) :
    (database.updateRun runId change).laneView = database.laneView := by
  have homeSame := home_updateRun database runId keeps
  have holderSame : (database.updateRun runId change).laneView.holder =
      database.laneView.holder := by
    funext wanted
    simp only [Database.laneView, Database.updateRun]
    rw [Table.find_update keeps.id, Option.bind_map]
    congr 1
    funext run
    simp only [Function.comp_apply]
    split
    · exact holder run
    · rfl
  have numbering : (database.updateRun runId change).numbering = database.numbering := rfl
  simp only [Database.laneView] at homeSame holderSame
  simp only [Database.laneView, homeSame, holderSame, numbering]
  rfl

theorem aside_laneView : Aside Database.laneView where
  tickets database ticketId _ keeps := laneView_updateTicket database ticketId keeps
  runs database runId _ keeps :=
    laneView_updateRun database runId keeps.toKeepsPlace keeps.holder
  attempts _ _ _ := rfl
  events _ _ := rfl
  turns _ _ := rfl
  messages _ _ := rfl
  outbox _ _ := rfl
  approvals _ _ := rfl
  proposals _ _ := rfl
  markers _ _ := rfl
  transports _ _ := rfl
  turnGroups _ _ := rfl
  invocations _ _ := rfl
  observations _ _ := rfl

/-- Set the pointers of a run that is there. -/
theorem holder_updateRun (database : Database) {runId : String} {run : AgentRun}
    {change : AgentRun → AgentRun} (id : ∀ run, (change run).id = run.id)
    {holder : Option (String × Nat)} (sets : ∀ run, (change run).holder = holder)
    (found : Table.find AgentRun.id database.runs runId = some run) :
    (database.updateRun runId change).laneView.holder =
      Function.update database.laneView.holder runId holder := by
  funext wanted
  simp only [Database.laneView, Database.updateRun]
  rw [Table.find_update id]
  by_cases same : wanted = runId
  · subst same
    rw [found, Function.update_self]
    simp [sets]
  · rw [Function.update_of_ne same]
    simp [same]

variable {change : RuntimeJob → RuntimeJob} {changed : LaneEntry → LaneEntry}

/-- Changing one job changes its entry. -/
theorem map_entry_updateJob (jobs : List RuntimeJob) (jobId : String)
    (entry : ∀ job, (change job).entry = changed job.entry) :
    (Table.update RuntimeJob.id jobId change jobs).map RuntimeJob.entry =
      Table.update Entry.id jobId changed (jobs.map RuntimeJob.entry) := by
  rw [Table.update, Table.update, List.map_map, List.map_map]
  apply List.map_congr_left
  intro job _
  simp only [Function.comp_apply]
  show _ = if job.id = jobId then _ else _
  split
  · exact entry job
  · rfl

theorem lanes_updateJob (database : Database) (claims : List String) (jobId : String)
    (entry : ∀ job, (change job).entry = changed job.entry) :
    (database.updateJob jobId change).lanes claims =
      { database.lanes claims with
        entries := Table.update Entry.id jobId changed (database.lanes claims).entries } := by
  have entries := map_entry_updateJob database.jobs jobId entry
  simp only [Database.lanes, LaneView.lanes, Database.laneView, ← entries]
  rfl

/-- Change a job together with the pointers of a run. -/
theorem lanes_updateJob_updateRun (database : Database) (claims : List String) (jobId : String)
    {runId : String} {run : AgentRun} {runChange : AgentRun → AgentRun}
    {holder : Option (String × Nat)} (entry : ∀ job, (change job).entry = changed job.entry)
    (keeps : KeepsPlace runChange) (sets : ∀ run, (runChange run).holder = holder)
    (found : Table.find AgentRun.id database.runs runId = some run) :
    ((database.updateJob jobId change).updateRun runId runChange).lanes claims =
      { database.lanes claims with
        entries := Table.update Entry.id jobId changed (database.lanes claims).entries
        holder := Function.update (database.lanes claims).holder runId holder } := by
  have homeSame := home_updateRun (database.updateJob jobId change) runId keeps
  have holderSet := holder_updateRun (database.updateJob jobId change) keeps.id sets found
  have jobSet := lanes_updateJob database claims jobId entry
  simp only [Database.lanes, LaneView.lanes, FencedLanes.State.mk.injEq] at jobSet
  simp only [Database.lanes, LaneView.lanes, homeSame, holderSet, ← jobSet.2.1]
  rfl

/-! ## Dispatching -/

variable {job : RuntimeJob}

theorem insertJob_returns {result : Unit} (returned : (insertJob job).Returns before result after) :
    (∀ other ∈ before.jobs, other.id ≠ job.id) ∧
      after = { before with jobs := before.jobs ++ [job] } := by
  simp only [insertJob, returns_bind, returns_reads, returns_refuseWhen, returns_modify,
    and_assoc, exists_and_left, exists_eq_left, exists_const, id] at returned
  rcases returned with ⟨fresh, equal⟩
  exact ⟨by simpa using fresh, equal⟩

theorem dispatchJob_returns {job result : RuntimeJob} {ticket : SupportTicket}
    (returned : (dispatchJob job ticket).Returns before result after) :
    result = { job with
        ticketId := ticket.id
        dispatchSequence := ticket.nextDispatchSequence + 1 } ∧
      (∀ other ∈ before.jobs, other.id ≠ job.id) ∧
      after = { before.updateTicket ticket.id fun row =>
          { row with nextDispatchSequence := row.nextDispatchSequence + 1 }
        with jobs := before.jobs ++ [result] } := by
  simp only [dispatchJob, returns_bind, returns_modify, returns_pure, exists_eq_left,
    exists_const] at returned
  rcases returned with ⟨_, middle, inserted, built, equal⟩
  rcases insertJob_returns inserted with ⟨fresh, middleEqual⟩
  subst equal
  refine ⟨built, fresh, ?_⟩
  rw [middleEqual, built]
  rfl

variable {database : Database}

/-- The number that dispatching takes is the next one of its lane only. -/
theorem numbering_dispatch {tenantId ticketId : String} {count : Nat}
    (numbered : database.numbering (tenantId, ticketId) = some count) :
    (database.updateTicket ticketId fun row =>
      { row with nextDispatchSequence := row.nextDispatchSequence + 1 }).numbering =
      Function.update database.numbering (tenantId, ticketId) (some (count + 1)) := by
  funext lane
  rcases lane with ⟨tenant, wanted⟩
  by_cases same : (tenant, wanted) = (tenantId, ticketId)
  · cases same
    rw [Function.update_self]
    simp only [Database.numbering] at numbered ⊢
    rw [ticketOf?_updateTicket]
    · rcases Option.map_eq_some_iff.mp numbered with ⟨ticket, found, equal⟩
      simp [found, equal]
    · exact fun _ => rfl
    · exact fun _ => rfl
  · rw [Function.update_of_ne same]
    simp only [Database.numbering] at numbered ⊢
    rw [ticketOf?_updateTicket]
    · by_cases ticket : wanted = ticketId
      · -- The row of this ticket is another tenant's.
        subst ticket
        have tenantOther : tenant ≠ tenantId := fun equal => same (by rw [equal])
        rcases Option.map_eq_some_iff.mp numbered with ⟨row, found, _⟩
        rcases Option.filter_eq_some_iff.mp found with ⟨keyed, owner⟩
        have absent : database.ticketOf? tenant wanted = none := by
          rw [Database.ticketOf?, keyed]
          simp only [decide_eq_true_eq] at owner
          simp [owner, tenantOther.symm]
        rw [absent]
        rfl
      · simp [ticket]
    · exact fun _ => rfl
    · exact fun _ => rfl

theorem dispatchJob_refines {job result : RuntimeJob} {ticket : SupportTicket}
    (claims : List String) (queued : job.status = .queued) (unclaimed : job.fencingToken = 0)
    (numbered : before.numbering (job.tenantId, ticket.id) =
      some ticket.nextDispatchSequence)
    (returned : (dispatchJob job ticket).Returns before result after) :
    Steps (before.lanes claims) (after.lanes claims) := by
  rcases dispatchJob_returns returned with ⟨built, fresh, equal⟩
  have lane : result.entry.lane = (job.tenantId, ticket.id) := by rw [built]; rfl
  have sequence : result.entry.sequence = ticket.nextDispatchSequence + 1 := by
    rw [built]; rfl
  have reached : after.lanes claims =
      { before.lanes claims with
        entries := (before.lanes claims).entries ++ [result.entry]
        last := Function.update (before.lanes claims).last result.entry.lane
          result.entry.sequence } := by
    have numbering : after.numbering = Function.update before.numbering
        (job.tenantId, ticket.id) (some (ticket.nextDispatchSequence + 1)) := by
      rw [equal]
      exact numbering_dispatch numbered
    have last : (fun lane => (after.numbering lane).getD 0) =
        Function.update (fun lane => (before.numbering lane).getD 0)
          (job.tenantId, ticket.id) (ticket.nextDispatchSequence + 1) := by
      rw [numbering]
      funext wanted
      by_cases same : wanted = (job.tenantId, ticket.id)
      · rw [same, Function.update_self, Function.update_self]
        rfl
      · rw [Function.update_of_ne same, Function.update_of_ne same]
    rw [lane, sequence]
    simp only [Database.lanes, LaneView.lanes, Database.laneView, last]
    rw [equal, List.map_append]
    rfl
  rw [reached]
  apply Relation.ReflTransGen.single
  apply Step.enqueue
  · rw [built]
    show job.status.phase = .waiting
    rw [queued]
    rfl
  · rw [built]
    exact unclaimed
  · intro other member
    rcases List.mem_map.mp member with ⟨otherJob, otherMember, rfl⟩
    rw [built]
    exact fresh otherJob otherMember
  · rw [lane, sequence]
    show _ = (before.numbering _).getD 0 + 1
    rw [numbered]
    rfl

theorem create_refines {request : JobRequest} (claims : List String)
    (returned : (create request).Returns before job after) :
    Steps (before.lanes claims) (after.lanes claims) := by
  simp only [create, returns_bind, returns_reads, returns_require, returns_refuseWhen,
    and_assoc, exists_and_left, exists_eq_left, exists_const, id] at returned
  rcases returned with ⟨kind, _, _, _, run, _, _, _, ticket, found, dispatched⟩
  have keyed := (Option.filter_eq_some_iff.mp found).1
  refine dispatchJob_refines claims rfl rfl ?_ dispatched
  rw [(Table.find_mem keyed).2, Database.numbering, found]
  rfl

/-! ## Activating a turn -/

section

variable {redactPii : PyText → PyText}

variable {before after : Database}

theorem find_insertRun {run : AgentRun}
    (equal : after = { before with runs := before.runs ++ [run] })
    (fresh : Table.find AgentRun.id before.runs run.id = none) (wanted : String) :
    Table.find AgentRun.id after.runs wanted =
      if wanted = run.id then some run else Table.find AgentRun.id before.runs wanted := by
  rw [equal]
  simp only [Table.find, List.find?_append] at fresh ⊢
  by_cases same : wanted = run.id
  · subst same
    simp [fresh]
  · simp [same, Ne.symm same]

theorem insertRun_refines {run : AgentRun} {result : Unit} (claims : List String)
    (free : run.holder = none) (returned : (insertRun run).Returns before result after) :
    after.numbering = before.numbering ∧
      Steps (before.lanes claims) (after.lanes claims) := by
  simp only [insertRun, returns_bind, returns_reads, returns_refuseWhen, returns_modify,
    and_assoc, exists_and_left, exists_eq_left, exists_const, id] at returned
  rcases returned with ⟨used, equal⟩
  have fresh : Table.find AgentRun.id before.runs run.id = none := by
    rw [Table.find_eq_none]
    simpa using used
  have found := find_insertRun equal fresh
  have numbering : after.numbering = before.numbering := by rw [equal]; rfl
  refine ⟨numbering, Relation.ReflTransGen.single ?_⟩
  have reached : after.lanes claims =
      { before.lanes claims with
        home := Function.update (before.lanes claims).home run.id
          (some (run.tenantId, run.ticketId)) } := by
    have home : after.laneView.home = Function.update before.laneView.home run.id
        (some (run.tenantId, run.ticketId)) := by
      funext wanted
      simp only [Database.laneView, found]
      by_cases same : wanted = run.id
      · subst same
        simp
      · simp [same]
    have holder : after.laneView.holder = before.laneView.holder := by
      funext wanted
      simp only [Database.laneView, found]
      by_cases same : wanted = run.id
      · subst same
        simp [free, fresh]
      · simp [same]
    simp only [Database.lanes, LaneView.lanes, home, holder]
    simp only [Database.laneView, numbering]
    rw [equal]
  rw [reached]
  apply Step.register
  show (Table.find AgentRun.id before.runs run.id).map _ = none
  rw [fresh]
  rfl

theorem createRun_refines {draws : Draws} {ticket : SupportTicket} {turn : ConversationTurn}
    {model providerMode toolCallMode runId : String} (claims : List String)
    (returned : (createRun redactPii draws ticket turn model providerMode
      toolCallMode).Returns before runId after) :
    after.numbering = before.numbering ∧
      Steps (before.lanes claims) (after.lanes claims) := by
  simp only [createRun, returns_bind, returns_reads, returns_require, returns_refuseWhen,
    and_assoc, exists_and_left, exists_eq_left, exists_const, id] at returned
  rcases returned with ⟨message, _, owner, _, _, returned⟩
  split at returned
  · rcases returns_pure.mp returned with ⟨_, equal⟩
    rw [equal]
    exact ⟨rfl, .refl⟩
  · simp only [returns_bind, returns_mapError, returns_pure] at returned
    rcases returned with ⟨_, middle, inserted, event, final, appended, _, equal⟩
    rw [equal]
    have view := aside_laneView.appendEvent appended
    rcases insertRun_refines claims rfl inserted with ⟨numbering, steps⟩
    refine ⟨(congrArg LaneView.numbering view).trans numbering, ?_⟩
    rw [lanes_congr view]
    exact steps

theorem activateNextTurn_refines {draws : Draws} {ticket : SupportTicket} {traceId : String}
    {result : Option (String × String)} (claims : List String)
    (found : Table.find SupportTicket.id before.tickets ticket.id = some ticket)
    (returned : (activateNextTurn redactPii draws ticket traceId).Returns before result
      after) :
    Steps (before.lanes claims) (after.lanes claims) := by
  simp only [activateNextTurn, returns_bind, returns_reads, exists_and_left, exists_eq_left,
    and_assoc, id] at returned
  split at returned
  · rw [(returns_pure.mp returned).2]
  · split at returned
    · rw [(returns_pure.mp returned).2]
    · simp only [returns_bind, returns_refuseWhen, returns_pure, and_assoc,
        exists_and_left, exists_eq_left, exists_const] at returned
      rcases returned with ⟨_, runId, created, wasCreated, _, bound, wasBound, job,
        dispatched, wasDispatched, _, announced, wasAnnounced, _, equal⟩
      rcases createRun_refines claims wasCreated with ⟨numbering, registered⟩
      have boundView := (aside_laneView.bindTurn _ runId).returns wasBound
      have announcedView :=
        (aside_laneView.announceJob draws ticket job traceId).returns wasAnnounced
      have boundNumbering : bound.numbering = before.numbering :=
        (congrArg LaneView.numbering boundView).trans numbering
      have numbered : bound.numbering (ticket.tenantId, ticket.id) =
          some ticket.nextDispatchSequence := by
        rw [boundNumbering, Database.numbering, Database.ticketOf?, found]
        simp
      refine registered.trans ?_
      rw [equal, lanes_congr announcedView, ← lanes_congr boundView]
      exact dispatchJob_refines claims rfl rfl numbered wasDispatched

end

/-! ## Claiming -/

/-- A transition changes the phase of the entry and nothing else. -/
theorem entry_transitionStatus (job : RuntimeJob) (status : JobStatus) :
    (transitionStatus job status).entry = { job.entry with phase := status.phase } := by
  unfold transitionStatus
  split
  · rename_i same
    rw [← same]
    rfl
  · rfl

theorem entry_lease (job : RuntimeJob) (owner : String) (now expiresAt : Instant) :
    (job.lease owner now expiresAt).entry = job.entry.lease (some expiresAt) := by
  have moved := entry_transitionStatus job .leased
  simp only [RuntimeJob.entry, Entry.mk.injEq] at moved
  simp only [RuntimeJob.lease, RuntimeJob.entry, Entry.lease, moved]
  rfl

theorem entry_release (job : RuntimeJob) (status : JobStatus) :
    (job.release status).entry = job.entry.release status.phase := by
  have moved := entry_transitionStatus job status
  simp only [RuntimeJob.entry, Entry.mk.injEq] at moved
  simp only [RuntimeJob.release, RuntimeJob.entry, Entry.release, moved]

theorem mem_laneJobs {tenantId ticketId : String} :
    job ∈ database.laneJobs tenantId ticketId ↔
      job ∈ database.jobs ∧ job.entry.lane = (tenantId, ticketId) ∧
        job.entry.phase ≠ .finished := by
  have active : job.status.occupiesLane = true ↔ job.status.phase ≠ .finished := by
    cases job.status <;> simp [JobStatus.occupiesLane, JobStatus.phase]
  simp [Database.laneJobs, RuntimeJob.entry, active, and_assoc]

variable {lease : JobLease}

/-- What a claim that returned has read and written. -/
theorem claim_returns {jobId owner : String} {leaseSeconds : Int}
    (returned : (claim jobId owner leaseSeconds).Returns before lease after) :
    ∃ (job : RuntimeJob) (run : AgentRun) (ticket : SupportTicket) (expiresAt : Instant),
      Table.find RuntimeJob.id before.jobs jobId = some job ∧
      (job.status = .queued ∨ job.status = .retryWait) ∧
      before.laneHead? job.tenantId job.ticketId = some job.dispatchSequence ∧
      before.laneLeased job.tenantId job.ticketId = false ∧
      before.runOf? job.tenantId job.runId = some run ∧
      run.ticketId = job.ticketId ∧
      lease.jobId = jobId ∧ lease.fencingToken = job.fencingToken + 1 ∧
      after =
        ((((before.updateJob job.id fun row =>
            row.lease owner before.clock expiresAt).updateRun run.id fun row =>
            { row with
              activeJobId := some job.id
              activeFencingToken := some (job.fencingToken + 1)
              status := "running"
              statusVersion := row.statusVersion + 1 }).updateTurn (run.turnId.getD "")
            (startTurn job run)).updateTicket ticket.id fun row =>
            if row.status = "queued" then
              { row with status := "running", version := row.version + 1 }
            else row) := by
  simp only [claim, returns_bind, returns_reads, returns_require, returns_refuseWhen,
    returns_modify, returns_pure, and_assoc, exists_and_left, exists_eq_left,
    exists_const, id] at returned
  rcases returned with ⟨job, found, ticket, _, _, waiting, head, free, _, run, runFound, _,
    _, expiresAt, _, ticketSame, built, equal⟩
  refine ⟨job, run, ticket, expiresAt, found, ?_, ?_, ?_, runFound, ?_, ?_, ?_, equal⟩
  · cases status : job.status <;> simp [status] at waiting ⊢
  · exact not_not.mp head
  · simpa using free
  · exact not_not.mp ticketSame
  · rw [built]
    exact (Table.find_mem found).2
  · rw [built]

theorem claim_refines {jobId owner : String} {leaseSeconds : Int} (claims : List String)
    (returned : (claim jobId owner leaseSeconds).Returns before lease after) :
    Steps (before.lanes claims) (after.lanes (claims ++ [lease.jobId])) := by
  rcases claim_returns returned with ⟨job, run, ticket, expiresAt, found, waiting, head,
    free, runFound, ticketSame, leaseId, _, equal⟩
  rcases Table.find_mem found with ⟨member, jobSame⟩
  rcases Option.filter_eq_some_iff.mp runFound with ⟨runKeyed, tenantSame⟩
  have runSame := (Table.find_mem runKeyed).2
  have reached : after.lanes (claims ++ [lease.jobId]) =
      { before.lanes claims with
        entries := Table.update Entry.id job.entry.id (Entry.lease (some expiresAt))
          (before.lanes claims).entries
        holder := Function.update (before.lanes claims).holder job.entry.run
          (some (job.entry.id, job.entry.token + 1))
        claims := claims ++ [job.entry.id] } := by
    rw [equal, lanes_congr (laneView_updateTicket _ _ ?_)]
    · show Database.lanes ((before.updateJob job.id fun row =>
        row.lease owner before.clock expiresAt).updateRun run.id _) _ = _
      rw [runSame, leaseId, ← jobSame]
      exact lanes_updateJob_updateRun before _ job.id
        (fun row => entry_lease row owner before.clock expiresAt)
        ⟨fun _ => rfl, fun _ => rfl, fun _ => rfl⟩ (fun _ => rfl) runKeyed
    · constructor
      · intro row
        split <;> rfl
      · intro row
        split <;> rfl
      · intro row
        split <;> rfl
  rw [reached]
  apply Relation.ReflTransGen.single
  have inLane {other : LaneEntry} (present : other ∈ (before.lanes claims).entries)
      (lane : other.lane = job.entry.lane) :
      ∃ otherJob ∈ before.jobs, otherJob.entry = other ∧
        otherJob.tenantId = job.tenantId ∧ otherJob.ticketId = job.ticketId := by
    rcases List.mem_map.mp present with ⟨otherJob, otherMember, rfl⟩
    exact ⟨otherJob, otherMember, rfl, congrArg Prod.fst lane, congrArg Prod.snd lane⟩
  apply Step.lease
  · exact List.mem_map.mpr ⟨job, member, rfl⟩
  · show job.status.phase = .waiting
    rcases waiting with queued | retry
    · rw [queued]
      rfl
    · rw [retry]
      rfl
  · show (Table.find AgentRun.id before.runs job.runId).map _ = some (job.tenantId, job.ticketId)
    simp only [decide_eq_true_eq] at tenantSame
    rw [runKeyed, ← tenantSame, ← ticketSame]
    rfl
  · intro other present lane active
    rcases inLane present lane with ⟨otherJob, otherMember, rfl, _, _⟩
    have inHead : otherJob.dispatchSequence ∈
        (before.laneJobs job.tenantId job.ticketId).map RuntimeJob.dispatchSequence :=
      List.mem_map.mpr ⟨otherJob, mem_laneJobs.mpr ⟨otherMember, lane, active⟩, rfl⟩
    exact (List.min?_eq_some_iff.mp head).2 _ inHead
  · intro other present lane leased
    rcases inLane present lane with ⟨otherJob, otherMember, rfl, tenant, ticketId⟩
    have status : otherJob.status = .leased := by
      cases otherStatus : otherJob.status <;>
        simp [RuntimeJob.entry, JobStatus.phase, otherStatus] at leased ⊢
    have noneLeased := List.any_eq_false.mp free otherJob otherMember
    simp [tenant, ticketId, status] at noneLeased

/-! ## The fence -/

theorem assertFence_returns :
    (assertFence lease).Returns before job after ↔
      fencedJob? before lease = some job ∧ after = before := by
  simp only [assertFence, returns_bind, returns_reads, returns_require, exists_eq_left,
    exists_eq_left, and_assoc, exists_and_left, id]

theorem fencedJob?_eq_some (found : fencedJob? database lease = some job) :
    Table.find RuntimeJob.id database.jobs lease.jobId = some job ∧
      job.runId = lease.runId ∧
      ∃ run, Table.find AgentRun.id database.runs lease.runId = some run ∧
        lease.matches job run database.clock = true := by
  simp only [fencedJob?, bind, Option.bind_eq_some_iff] at found
  rcases found with ⟨ticketId, _, ticket, _, candidate, candidateFound, run, runFound,
    matched⟩
  split at matched
  · rename_i holds
    rw [Option.some.injEq] at matched
    subst matched
    rcases Option.filter_eq_some_iff.mp candidateFound with ⟨keyed, scope⟩
    simp only [Bool.and_eq_true, decide_eq_true_eq] at scope
    exact ⟨keyed, scope.1.2, run, (Option.filter_eq_some_iff.mp runFound).1, holds⟩
  · cases matched

/-- The job a lease holds is fenced in its lane. -/
theorem fencedJob?_fenced (found : fencedJob? database lease = some job) (claims : List String) :
    Fenced (database.lanes claims) job.entry ∧ job.entry.id = lease.jobId ∧
      job.entry.token = lease.fencingToken := by
  rcases fencedJob?_eq_some found with ⟨keyed, runSame, run, runFound, matched⟩
  rcases Table.find_mem keyed with ⟨member, same⟩
  simp only [JobLease.matches, Bool.and_eq_true, decide_eq_true_eq] at matched
  rcases matched with ⟨⟨⟨⟨⟨⟨leased, _⟩, token⟩, running⟩, activeJob⟩, activeToken⟩, _⟩
  refine ⟨⟨List.mem_map.mpr ⟨job, member, rfl⟩, ?_, ?_, ?_⟩, same, token⟩
  · show job.status.phase = .leased
    rw [leased]
    rfl
  · cases expiry : job.leaseExpiresAt with
    | none => simp [expiry] at running
    | some expiresAt =>
        have less : database.clock < expiresAt := by simpa [expiry] using running
        exact ⟨expiresAt, expiry, less⟩
  · show (Table.find AgentRun.id database.runs job.runId).bind AgentRun.holder =
      some (job.id, job.fencingToken)
    rw [runSame, runFound, same, token]
    simp [AgentRun.holder, activeJob, activeToken]

theorem heartbeat_refines {leaseSeconds : Int} {result : Unit} (claims : List String)
    (returned : (heartbeat lease leaseSeconds).Returns before result after) :
    Steps (before.lanes claims) (after.lanes claims) := by
  simp only [heartbeat, returns_bind, assertFence_returns, returns_reads, returns_require,
    returns_modify, and_assoc, exists_and_left, exists_eq_left, id] at returned
  rcases returned with ⟨job, found, expiresAt, _, equal⟩
  have fenced := (fencedJob?_fenced found claims).1
  have reached : after.lanes claims =
      { before.lanes claims with
        entries := Table.update Entry.id job.entry.id (Entry.renew (some expiresAt))
          (before.lanes claims).entries } := by
    rw [equal]
    exact lanes_updateJob before claims job.id fun _ => rfl
  rw [reached]
  exact .single (Step.renew job.entry (some expiresAt) fenced)

/-- Giving a lease back: the job leaves it, and its run is free again. -/
theorem release_refines (found : fencedJob? database lease = some job) (claims : List String)
    {status : JobStatus} (ended : status ≠ .leased)
    (entry : ∀ row, (change row).entry = (row.release status).entry)
    {runChange : AgentRun → AgentRun} (keeps : KeepsPlace runChange)
    (frees : ∀ run, (runChange run).holder = none) :
    Steps (database.lanes claims)
      (((database.updateJob job.id change).updateRun lease.runId runChange).lanes
        claims) := by
  rcases fencedJob?_eq_some found with ⟨_, runSame, run, runFound, _⟩
  rw [lanes_updateJob_updateRun database claims job.id
    (fun row => (entry row).trans (entry_release row status)) keeps frees runFound,
    ← runSame]
  apply Relation.ReflTransGen.single
  apply Step.release job.entry status.phase
  · cases status <;> simp [JobStatus.phase] at ended ⊢
  · exact (fencedJob?_fenced found claims).1

theorem complete_refines {outcome : String} {result : Unit} (claims : List String)
    (returned : (complete lease outcome).Returns before result after) :
    Steps (before.lanes claims) (after.lanes claims) := by
  simp only [complete, returns_bind, assertFence_returns, returns_reads, returns_require,
    returns_modify, and_assoc, exists_and_left, exists_eq_left, exists_const, id] at returned
  rcases returned with ⟨job, found, run, runFound, equal⟩
  have ended : JobStatus.succeeded ≠ .leased := by decide
  rw [equal, (Table.find_mem runFound).2]
  refine release_refines found claims ended ?_ ?_ ?_
  · exact fun _ => rfl
  · exact ⟨fun _ => rfl, fun _ => rfl, fun _ => rfl⟩
  · exact fun _ => rfl

/-! ## Failure -/

theorem updateRun_updateRun (database : Database) (runId : String)
    {first second : AgentRun → AgentRun} (id : ∀ run, (first run).id = run.id) :
    (database.updateRun runId first).updateRun runId second =
      database.updateRun runId (second ∘ first) := by
  simp only [Database.updateRun, Table.update, List.map_map]
  congr 1
  apply List.map_congr_left
  intro run _
  simp only [Function.comp_apply]
  split
  · rename_i same
    rw [id, if_pos same]
  · rfl

/-- A failed job is dead or waits for its next attempt. -/
theorem retryDecision_nextStatus {jobId : String} {attempt : Nat} {createdAt now : Instant}
    {maxAttempts maxAgeSeconds : Int} {decision : RetryDecision}
    (decided : retryDecision jobId attempt createdAt now maxAttempts maxAgeSeconds =
      .ok decision) :
    decision.nextStatus = if decision.terminal then .dead else .retryWait := by
  unfold retryDecision at decided
  simp only [bind, Except.bind, throw, throwThe, MonadExceptOf.throw] at decided
  split at decided
  · cases decided
  · split at decided
    · cases decided
    · split at decided
      · cases decided
      · cases decided
        rfl

section

variable {redactPii : PyText → PyText}

variable {before after : Database}

theorem releaseTicket_refines {draws : Draws} {job : RuntimeJob} {run : AgentRun} {result : Unit}
    (claims : List String)
    (returned : (releaseTicket redactPii draws job run).Returns before result after) :
    Steps (before.lanes claims) (after.lanes claims) := by
  simp only [releaseTicket, returns_bind, returns_reads, exists_and_left, exists_eq_left,
    and_assoc, id] at returned
  split at returned
  · rw [(returns_pure.mp returned).2]
  · rename_i ticket found
    split at returned
    · simp only [returns_bind, returns_reads, and_assoc, exists_and_left, exists_eq_left,
        id] at returned
      rcases returned with ⟨activated, middle, wasActivated, returned⟩
      have keyed : Table.find SupportTicket.id before.tickets ticket.id = some ticket := by
        rw [(Table.find_mem found).2]
        exact found
      have steps := activateNextTurn_refines claims keyed wasActivated
      split at returned
      · rw [(returns_pure.mp returned).2]
        exact steps
      · simp only [returns_bind, returns_pure] at returned
        rcases returned with ⟨status, final, converged, _, equal⟩
        rw [equal, lanes_congr ((aside_laneView.convergeTicket _ _).returns converged)]
        exact steps
    · rw [(returns_pure.mp returned).2]

/-- Once the run is failed, the rest of the convergence only adds work behind it. -/
theorem convergeDeadAggregates_refines {draws : Draws} {job : RuntimeJob} {run : AgentRun}
    {reason : String} {result : Unit} (claims : List String)
    (returned : (convergeDeadAggregates redactPii draws job run reason).Returns before
      result after) :
    Steps ((before.updateRun run.id fun row =>
        { row with
          status := "failed"
          errorCode := some (shortened reason)
          activeJobId := none
          activeFencingToken := none }).lanes claims) (after.lanes claims) := by
  simp only [convergeDeadAggregates, failRun, returns_bind, returns_modify, exists_eq_left,
    exists_const] at returned
  rcases returned with ⟨_, turnFailed, failedTurn, _, published, publishes, _, rejected,
    rejects, _, aborted, aborts, releases⟩
  have view := ((aside_laneView.abortMarkers job).returns aborts).trans
    (((aside_laneView.failApproval job).returns rejects).trans
      (((aside_laneView.publishFailure draws job run).returns publishes).trans
        ((aside_laneView.failTurn run).returns failedTurn)))
  rw [← lanes_congr view]
  exact releaseTicket_refines claims releases

theorem fail_refines {draws : Draws} {lease : JobLease} {errorCode : String}
    {maxAttempts maxAgeSeconds : Int} {status : JobStatus} (claims : List String)
    (returned : (fail redactPii draws lease errorCode maxAttempts maxAgeSeconds).Returns
      before status after) :
    Steps (before.lanes claims) (after.lanes claims) := by
  simp only [fail, returns_bind, assertFence_returns, returns_reads, returns_require,
    returns_ofExcept, returns_modify, returns_onlyIf, returns_pure, and_assoc,
    exists_and_left, exists_eq_left, exists_const, id] at returned
  rcases returned with ⟨job, found, run, runFound, decision, decided, _, converged,
    converges, _, equal⟩
  have runSame := (Table.find_mem runFound).2
  have ended : decision.nextStatus ≠ .leased := by
    rw [retryDecision_nextStatus decided]
    split <;> decide
  rw [equal]
  split at converges
  · have steps := convergeDeadAggregates_refines claims converges
    refine Relation.ReflTransGen.trans ?_ steps
    rw [runSame, updateRun_updateRun]
    · refine release_refines found claims ended ?_ ?_ ?_
      · exact fun _ => rfl
      · exact ⟨fun _ => rfl, fun _ => rfl, fun _ => rfl⟩
      · exact fun _ => rfl
    · exact fun _ => rfl
  · rw [converges, runSame]
    refine release_refines found claims ended ?_ ?_ ?_
    · exact fun _ => rfl
    · exact ⟨fun _ => rfl, fun _ => rfl, fun _ => rfl⟩
    · exact fun _ => rfl

theorem terminalFail_refines {draws : Draws} {lease : JobLease} {errorCode : String}
    {status : JobStatus} (claims : List String)
    (returned : (terminalFail redactPii draws lease errorCode).Returns before status
      after) :
    Steps (before.lanes claims) (after.lanes claims) := by
  simp only [terminalFail, returns_bind, assertFence_returns, returns_reads,
    returns_require, returns_modify, returns_pure, and_assoc, exists_and_left,
    exists_eq_left, exists_const, id] at returned
  rcases returned with ⟨job, found, run, runFound, _, converged, converges, _, equal⟩
  have runSame := (Table.find_mem runFound).2
  have ended : JobStatus.dead ≠ .leased := by decide
  have steps := convergeDeadAggregates_refines claims converges
  rw [runSame] at steps
  rw [equal, lanes_congr (laneView_updateRun _ _ ?_ ?_)]
  · refine Relation.ReflTransGen.trans ?_ steps
    refine release_refines found claims ended ?_ ?_ ?_
    · exact fun _ => rfl
    · exact ⟨fun _ => rfl, fun _ => rfl, fun _ => rfl⟩
    · exact fun _ => rfl
  · exact ⟨fun _ => rfl, fun _ => rfl, fun _ => rfl⟩
  · exact fun _ => rfl

end

/-! ## Spending -/

theorem laneView_spend (lease : JobLease) (kind : CallKind) (request : AttemptRequest)
    (run : AgentRun) : Keeps Database.laneView (spend lease kind request run) := by
  have llm : Keeps Database.laneView (spendLlmCall run) := by
    refine keeps_bind (keeps_refuseWhen _ _) fun _ => keeps_modify fun database => ?_
    exact laneView_updateRun database run.id ⟨fun _ => rfl, fun _ => rfl, fun _ => rfl⟩
      fun _ => rfl
  have tool : Keeps Database.laneView (spendToolAttempt lease kind request run) := by
    refine keeps_bind (keeps_reads _) fun _ => ?_
    refine keeps_bind (keeps_require _ _) fun _ => ?_
    refine keeps_bind (keeps_require _ _) fun _ => ?_
    apply keeps_refuseWhen_bind
    apply keeps_refuseWhen_bind
    apply keeps_refuseWhen_bind
    refine keeps_bind (keeps_refuseWhen _ _) fun _ => keeps_modify fun database => ?_
    exact laneView_updateRun database run.id ⟨fun _ => rfl, fun _ => rfl, fun _ => rfl⟩
      fun _ => rfl
  cases kind with
  | llm => exact llm
  | structureRepair => exact llm
  | readMcp => exact tool
  | toolPreflight => exact tool

theorem laneView_recordAttempt (lease : JobLease) (kind : CallKind)
    (request : AttemptRequest) :
    Keeps Database.laneView (recordAttempt lease kind request) := by
  refine keeps_bind (keeps_reads _) fun _ => ?_
  refine keeps_bind ?_ fun _ => ?_
  · refine keeps_bind (keeps_reads _) fun _ => ?_
    apply keeps_refuseWhen_bind
    exact keeps_bind (keeps_refuseWhen _ _) fun _ => keeps_modify fun _ => rfl
  · refine keeps_ite ?_ (keeps_pure _)
    refine keeps_bind (keeps_require _ _) fun _ => ?_
    refine keeps_bind (keeps_require _ _) fun _ => ?_
    exact keeps_bind (aside_laneView.insertTransport _) fun _ => keeps_pure _

theorem laneView_reserve (lease : JobLease) (request : AttemptRequest) :
    Keeps Database.laneView (reserve lease request) := by
  refine keeps_bind (keeps_assertFence lease) fun _ => ?_
  apply keeps_refuseWhen_bind
  apply keeps_refuseWhen_bind
  refine keeps_bind (keeps_reads _) fun _ => ?_
  refine keeps_bind (keeps_require _ _) fun run => ?_
  refine keeps_bind (keeps_onlyIf _ (keeps_checkRepair lease request)) fun _ => ?_
  refine keeps_bind (keeps_require _ _) fun kind => ?_
  refine keeps_bind (laneView_spend lease kind request run) fun _ => ?_
  exact laneView_recordAttempt lease kind request

theorem laneView_reserveToolRound (lease : JobLease) :
    Keeps Database.laneView (reserveToolRound lease) := by
  refine keeps_bind (keeps_assertFence lease) fun _ => ?_
  refine keeps_bind (keeps_reads _) fun _ => ?_
  refine keeps_bind (keeps_require _ _) fun run => ?_
  apply keeps_refuseWhen_bind
  refine keeps_bind (keeps_modify fun database => ?_) fun _ => keeps_pure _
  exact laneView_updateRun database run.id ⟨fun _ => rfl, fun _ => rfl, fun _ => rfl⟩
    fun _ => rfl

end SupportGuard
