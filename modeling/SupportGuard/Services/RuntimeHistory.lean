import SupportGuard.Services.TicketLane

/-! # Histories of the runtime

Workers create, claim and work on jobs in any order while the database clock moves
on. Each call is one transaction, and what it raises undoes it. -/

namespace SupportGuard

open Foundation Program
open Foundation.FencedLanes (Steps Sound)

/-! ## Calls -/

/-- What the calls take from the rest of the program. -/
structure Surroundings where
  redactPii : PyText → PyText
  registryHash : String
  dumpAborted : AbortedCall → List (PyKey × PyValue)

/-- The calls that check a lease first. -/
inductive FencedCall
  | heartbeat (leaseSeconds : Int)
  | fail (draws : Draws) (errorCode : String) (maxAttempts maxAgeSeconds : Int)
  | terminalFail (draws : Draws) (errorCode : String)
  | complete (outcome : String)
  | reserve (request : AttemptRequest)
  | finish (reserved : ReservedAttempt) (outcome : AttemptOutcome)
  | reserveToolRound
  | openTurn (request : TurnRequest)
  | markExecuting (invocationId : String)
  | terminalize (invocationId outcome : String) (observation : Observation)
      (trustedRetrievalIntent : Option PyValue) (observationId : String)
  | closeTurn (turnId : String)
  | takeover (turnId : String)
  | abortPending (turnId ticketId reason : String) (now : Instant) (draw : String → String)

section

variable (surroundings : Surroundings)

/-- A call under a lease, without its result. -/
def performCall (lease : JobLease) : FencedCall → Program Database RuntimeRaise Unit
  | .heartbeat leaseSeconds => heartbeat lease leaseSeconds
  | .fail draws errorCode maxAttempts maxAgeSeconds =>
      forgetResult (fail surroundings.redactPii draws lease errorCode maxAttempts
        maxAgeSeconds)
  | .terminalFail draws errorCode =>
      forgetResult (terminalFail surroundings.redactPii draws lease errorCode)
  | .complete outcome => complete lease outcome
  | .reserve request => forgetResult (reserve lease request)
  | .finish reserved outcome => finish lease reserved outcome
  | .reserveToolRound => forgetResult (reserveToolRound lease)
  | .openTurn request => forgetResult (openTurn surroundings.registryHash lease request)
  | .markExecuting invocationId => forgetResult (markExecuting lease invocationId)
  | .terminalize invocationId outcome observation trustedRetrievalIntent observationId =>
      forgetResult (terminalize lease invocationId outcome observation
        trustedRetrievalIntent observationId)
  | .closeTurn turnId => forgetResult (closeTurn lease turnId)
  | .takeover turnId => forgetResult (takeover lease turnId)
  | .abortPending turnId ticketId reason now draw =>
      forgetResult (abortPending surroundings.dumpAborted lease turnId ticketId reason
        now draw)

/-! ## Histories -/

inductive RuntimeEvent
  | tick (later : Instant)
  | create (request : JobRequest)
  | claim (jobId owner : String) (leaseSeconds : Int)
  | fenced (lease : JobLease) (call : FencedCall)

/-- The database, and the leases that claims have returned so far. -/
structure History where
  database : Database
  claims : List JobLease := []

namespace History

/-- One event; a call that raises leaves the database as it was. -/
def next (history : History) : RuntimeEvent → History
  | .tick later =>
      { history with
        database := { history.database with clock := max history.database.clock later } }
  | .create request =>
      { history with
        database := (atomically (create request) history.database).2 }
  | .claim jobId owner leaseSeconds =>
      match atomically (claim jobId owner leaseSeconds) history.database with
      | (.ok lease, database) => { database, claims := history.claims ++ [lease] }
      | (.error _, database) => { history with database }
  | .fenced lease call =>
      { history with
        database := (atomically (performCall surroundings lease call) history.database).2 }

def run (history : History) (events : List RuntimeEvent) : History :=
  events.foldl (next surroundings) history

end History

/-! ## Every event steps the lanes -/

def History.lanes (history : History) : Lanes :=
  history.database.lanes (history.claims.map JobLease.jobId)

theorem performCall_refines {lease : JobLease} {call : FencedCall} {result : Unit}
    {before after : Database} (claims : List String)
    (returned : (performCall surroundings lease call).Returns before result after) :
    Steps (before.lanes claims) (after.lanes claims) := by
  have still {program : Program Database RuntimeRaise Unit}
      (keeps : Keeps Database.laneView program)
      (returned : program.Returns before result after) :
      Steps (before.lanes claims) (after.lanes claims) := by
    rw [lanes_congr (keeps.returns returned)]
  have stillForgotten {α : Type} {program : Program Database RuntimeRaise α}
      (keeps : Keeps Database.laneView program)
      (returned : (forgetResult program).Returns before result after) :
      Steps (before.lanes claims) (after.lanes claims) :=
    still (keeps_bind keeps fun _ => keeps_pure ()) returned
  cases call with
  | heartbeat => exact heartbeat_refines claims returned
  | fail =>
      rcases returns_forgetResult.mp returned with ⟨status, failed⟩
      exact fail_refines claims failed
  | terminalFail =>
      rcases returns_forgetResult.mp returned with ⟨status, failed⟩
      exact terminalFail_refines claims failed
  | complete => exact complete_refines claims returned
  | reserve => exact stillForgotten (laneView_reserve _ _) returned
  | finish => exact still (aside_laneView.finish _ _ _) returned
  | reserveToolRound => exact stillForgotten (laneView_reserveToolRound _) returned
  | openTurn => exact stillForgotten (aside_laneView.openTurn _ _ _) returned
  | markExecuting => exact stillForgotten (aside_laneView.calls.markExecuting _ _) returned
  | terminalize => exact stillForgotten (aside_laneView.calls.terminalize _ _ _ _ _ _) returned
  | closeTurn => exact stillForgotten (aside_laneView.closeTurn _ _) returned
  | takeover => exact stillForgotten (aside_laneView.takeover _ _) returned
  | abortPending => exact stillForgotten (aside_laneView.abortPending _ _ _ _ _ _ _) returned

theorem History.next_refines (history : History) (event : RuntimeEvent) :
    Steps history.lanes (history.next surroundings event).lanes := by
  cases event with
  | tick later =>
      apply Relation.ReflTransGen.single
      exact FencedLanes.Step.tick _ (le_max_left _ later)
  | create request =>
      rcases atomically_cases (create request) history.database with
        ⟨job, final, returned, equal⟩ | ⟨error, equal⟩
      · simp only [History.next, equal]
        exact create_refines _ returned
      · simp only [History.next, equal]
        exact .refl
  | claim jobId owner leaseSeconds =>
      rcases atomically_cases (claim jobId owner leaseSeconds) history.database with
        ⟨lease, final, returned, equal⟩ | ⟨error, equal⟩
      · simp only [History.next, equal, History.lanes, List.map_append]
        exact claim_refines _ returned
      · simp only [History.next, equal]
        exact .refl
  | fenced lease call =>
      rcases atomically_cases (performCall surroundings lease call) history.database with
        ⟨result, final, returned, equal⟩ | ⟨error, equal⟩
      · simp only [History.next, equal]
        exact performCall_refines surroundings _ returned
      · simp only [History.next, equal]
        exact .refl

theorem History.run_refines (history : History) (events : List RuntimeEvent) :
    Steps history.lanes (history.run surroundings events).lanes := by
  induction events generalizing history with
  | nil => exact .refl
  | cons event rest induction =>
      exact (history.next_refines surroundings event).trans
        (induction (history.next surroundings event))

/-! ## Safety of ticket lanes -/

def SameTicket (left right : RuntimeJob) : Prop :=
  left.tenantId = right.tenantId ∧ left.ticketId = right.ticketId

structure LaneSafe (history : History) : Prop where
  single : ∀ left ∈ history.database.jobs, ∀ right ∈ history.database.jobs,
    SameTicket left right → left.status = .leased → right.status = .leased → left = right
  head : ∀ job ∈ history.database.jobs, job.status = .leased →
    ∀ other ∈ history.database.jobs, SameTicket other job → other.status.occupiesLane →
      job.dispatchSequence ≤ other.dispatchSequence
  distinct : ∀ left ∈ history.database.jobs, ∀ right ∈ history.database.jobs,
    SameTicket left right → left.dispatchSequence = right.dispatchSequence → left = right
  counted : ∀ job ∈ history.database.jobs,
    job.fencingToken = history.claims.countP fun lease => lease.jobId = job.id
  pointed : ∀ job ∈ history.database.jobs, job.status = .leased →
    ∃ run, Table.find AgentRun.id history.database.runs job.runId = some run ∧
      run.activeJobId = some job.id ∧ run.activeFencingToken = some job.fencingToken

/-- Every job is still there, and its fencing token has not decreased. -/
def TokensKept (before after : Database) : Prop :=
  ∀ job ∈ before.jobs, ∃ later ∈ after.jobs,
    later.id = job.id ∧ job.fencingToken ≤ later.fencingToken

theorem laneSafe_of_sound {history : History} (sound : Sound history.lanes) :
    LaneSafe history := by
  have entered {job : RuntimeJob} (member : job ∈ history.database.jobs) :
      job.entry ∈ history.lanes.entries :=
    List.mem_map.mpr ⟨job, member, rfl⟩
  have ids : (history.database.jobs.map RuntimeJob.id).Nodup := by
    have nodup := sound.ids
    simp only [History.lanes, Database.lanes, LaneView.lanes, List.map_map] at nodup
    exact nodup
  have lane {left right : RuntimeJob} (same : SameTicket left right) :
      left.entry.lane = right.entry.lane := by
    show (left.tenantId, left.ticketId) = (right.tenantId, right.ticketId)
    rw [same.1, same.2]
  have leased {job : RuntimeJob} (status : job.status = .leased) :
      job.entry.phase = .leased := by
    show job.status.phase = .leased
    rw [status]
    rfl
  constructor
  case single =>
    intro left leftMember right rightMember same leftLeased rightLeased
    have equal := sound.single _ (entered leftMember) _ (entered rightMember)
      (leased leftLeased) (leased rightLeased) (lane same)
    exact List.inj_on_of_nodup_map ids leftMember rightMember
      (congrArg FencedLanes.Entry.id equal)
  case head =>
    intro job member status other otherMember same occupies
    refine sound.head _ (entered member) (leased status) _ (entered otherMember)
      (lane same) ?_
    show other.status.phase ≠ .finished
    cases otherStatus : other.status <;>
      simp [JobStatus.occupiesLane, JobStatus.phase, otherStatus] at occupies ⊢
  case distinct =>
    intro left leftMember right rightMember same sequence
    have symmetric : Std.Symm fun first second : LaneEntry =>
        first.lane = second.lane → first.sequence ≠ second.sequence :=
      ⟨fun _ _ apart lanes sequences => apart lanes.symm sequences.symm⟩
    by_contra different
    refine sound.distinct.forall (entered leftMember) (entered rightMember) ?_ (lane same)
      sequence
    intro equal
    exact different (List.inj_on_of_nodup_map ids leftMember rightMember
      (congrArg FencedLanes.Entry.id equal))
  case counted =>
    intro job member
    have counted := sound.counted _ (entered member)
    simp only [History.lanes, Database.lanes, LaneView.lanes, List.count, List.countP_map]
      at counted
    exact counted
  case pointed =>
    intro job member status
    have held := sound.held _ (entered member) (leased status)
    simp only [History.lanes, Database.lanes, LaneView.lanes, Database.laneView,
      Option.bind_eq_some_iff, AgentRun.holder, Option.map_eq_some_iff,
      Prod.mk.injEq] at held
    rcases held with ⟨run, found, jobId, activeJob, token, activeToken, rfl, rfl⟩
    exact ⟨run, found, activeJob, activeToken⟩

theorem sound_of_no_jobs (database : Database) (empty : database.jobs = []) :
    Sound (History.mk database []).lanes := by
  apply Sound.of_empty
  · show database.jobs.map RuntimeJob.entry = []
    rw [empty]
    rfl
  · rfl

/-- From a database without jobs, every interleaving of calls keeps the lanes safe, and
no later call takes a fencing token back. -/
theorem ticketLane_safe (database : Database) (empty : database.jobs = [])
    (events more : List RuntimeEvent) :
    LaneSafe (History.run surroundings { database } events) ∧
      TokensKept (History.run surroundings { database } events).database
        ((History.run surroundings { database } events).run surroundings more).database := by
  have start := sound_of_no_jobs database empty
  have sound := start.steps (History.run_refines surroundings { database } events)
  refine ⟨laneSafe_of_sound sound, ?_⟩
  intro job member
  have later := (History.run surroundings { database } events).run_refines surroundings more
  rcases FencedLanes.Steps.entry later (List.mem_map.mpr ⟨job, member, rfl⟩) with
    ⟨entry, entryMember, same, grows⟩
  rcases List.mem_map.mp entryMember with ⟨laterJob, laterMember, rfl⟩
  exact ⟨laterJob, laterMember, same, grows⟩

end

def laneExample : Database where
  tickets := [{ id := "ticket_1", tenantId := "tenant", customerId := "customer" }]
  runs :=
    [{ id := "run_1"
       tenantId := "tenant"
       ticketId := "ticket_1"
       customerId := "customer"
       status := "queued" }]

def exampleSurroundings : Surroundings where
  redactPii := id
  registryHash := ""
  dumpAborted _ := []

def exampleDraws : Draws where
  runId := "run_2"
  jobId := "job_3"
  messageId := "message_1"
  eventId := "event_1"
  outboxId := "outbox_1"
  deliveryId := "delivery_1"
  now := ⟨0, Instant.first_inRange⟩
  startedPayload := .dict []

/-- The lease of the first claim in the example. -/
def firstLease : JobLease where
  jobId := "job_1"
  runId := "run_1"
  tenantId := "tenant"
  owner := "worker_a"
  fencingToken := 1
  expiresAt := ⟨30000000, Instant.halfMinute_inRange⟩
  ticketId := some "ticket_1"
  dispatchSequence := some 1

def exampleJob (drawnId : String) : RuntimeEvent :=
  .create { tenantId := "tenant", runId := "run_1", kind := "agent_start", drawnId }

/-- Two jobs share a run; the first one fails once and is claimed again. -/
def reclaimEvents : List RuntimeEvent :=
  [exampleJob "job_1", exampleJob "job_2", .claim "job_1" "worker_a" 30,
    .fenced firstLease (.fail exampleDraws "timeout" 5 3600),
    .tick ⟨60000000, Instant.minute_inRange⟩, .claim "job_2" "worker_b" 30,
    .claim "job_1" "worker_b" 30]

theorem reclaimEvents_jobs :
    (History.run exampleSurroundings { database := laneExample } reclaimEvents).database.jobs.map
        (fun job => (job.id, job.dispatchSequence, job.status, job.fencingToken)) =
      [("job_1", 1, .leased, 2), ("job_2", 2, .queued, 0)] := by
  decide +kernel

theorem ticketLane_safe_reclaimed :
    laneExample.jobs = [] ∧
      LaneSafe (History.run exampleSurroundings { database := laneExample } reclaimEvents) ∧
      TokensKept
        (History.run exampleSurroundings { database := laneExample } reclaimEvents).database
        ((History.run exampleSurroundings { database := laneExample } reclaimEvents).run
          exampleSurroundings [.tick ⟨90000000, by decide⟩]).database :=
  ⟨rfl, ticketLane_safe exampleSurroundings laneExample rfl reclaimEvents
    [.tick ⟨90000000, by decide⟩]⟩

section

variable (surroundings : Surroundings)

/-! ## Stale leases -/

/-- A stale lease stops every call at its fence, before anything is written. -/
theorem performCall_stale {database : Database} {lease : JobLease} (call : FencedCall)
    (stale : fencedJob? database lease = none) :
    (performCall surroundings lease call).Raises database
      (.runtimeConflict "stale_fencing_token") database := by
  have fenced {α : Type} (next : RuntimeJob → Program Database RuntimeRaise α) :
      (assertFence lease >>= next).Raises database
        (.runtimeConflict "stale_fencing_token") database := by
    refine bind_of_error (raises_bind.mpr (.inr ⟨database, database, rfl, ?_⟩))
    exact raises_require.mpr ⟨stale, rfl, rfl⟩
  cases call with
  | heartbeat => exact fenced _
  | fail => exact forgetResult_raises.mpr (fenced _)
  | terminalFail => exact forgetResult_raises.mpr (fenced _)
  | complete => exact fenced _
  | reserve => exact forgetResult_raises.mpr (fenced _)
  | finish => exact fenced _
  | reserveToolRound => exact forgetResult_raises.mpr (fenced _)
  | openTurn => exact forgetResult_raises.mpr (fenced _)
  | markExecuting => exact forgetResult_raises.mpr (fenced _)
  | terminalize => exact forgetResult_raises.mpr (fenced _)
  | closeTurn => exact forgetResult_raises.mpr (fenced _)
  | takeover => exact forgetResult_raises.mpr (fenced _)
  | abortPending => exact forgetResult_raises.mpr (fenced _)

/-- The lease of a job with the given token is over: the job was claimed again, it is no
longer leased, or the lease has expired at database time. -/
def LeaseOver (database : Database) (jobId : String) (token : Nat) : Prop :=
  ∃ job ∈ database.jobs, job.id = jobId ∧
    (token < job.fencingToken ∨ job.fencingToken = token ∧
      (job.status ≠ .leased ∨
        ∀ expiresAt, job.leaseExpiresAt = some expiresAt → expiresAt ≤ database.clock))

theorem LeaseOver.overtaken {history : History} {jobId : String} {token : Nat}
    (lapsed : LeaseOver history.database jobId token) :
    FencedLanes.Overtaken history.lanes jobId token := by
  rcases lapsed with ⟨job, member, same, ended⟩
  refine ⟨job.entry, List.mem_map.mpr ⟨job, member, rfl⟩, same, ended.imp id ?_⟩
  intro current
  refine ⟨current.1, current.2.imp ?_ id⟩
  intro left
  show job.status.phase ≠ .leased
  cases status : job.status <;> simp [JobStatus.phase, status] at left ⊢

/-- Once a lease has lapsed, every call under it is refused for the rest of the history, and
the refused call leaves the database as it is. -/
theorem stale_lease_refused (database : Database) (empty : database.jobs = [])
    (events more : List RuntimeEvent) (lease : JobLease)
    (lapsed : LeaseOver (History.run surroundings { database } events).database lease.jobId
      lease.fencingToken) (call : FencedCall) :
    performCall surroundings lease call
        ((History.run surroundings { database } events).run surroundings more).database =
      (.error (.runtimeConflict "stale_fencing_token"),
        ((History.run surroundings { database } events).run surroundings more).database) := by
  have start := sound_of_no_jobs database empty
  have sound := start.steps (History.run_refines surroundings { database } events)
  have later := (History.run surroundings { database } events).run_refines surroundings more
  have overtaken := lapsed.overtaken.steps sound later
  apply performCall_stale
  cases found : fencedJob?
      ((History.run surroundings { database } events).run surroundings more).database
      lease with
  | none => rfl
  | some job =>
      rcases fencedJob?_fenced found _ with ⟨fenced, same, token⟩
      exact absurd token (overtaken.not_fenced (sound.steps later).ids fenced same)

/-! ## Tickets are served in order -/

/-- The jobs that were dispatched before a job that has been claimed have ended. -/
def ClaimedInOrder (history : History) : Prop :=
  ∀ lease ∈ history.claims, ∀ second ∈ history.database.jobs, lease.jobId = second.id →
    ∀ first ∈ history.database.jobs, SameTicket first second →
      first.dispatchSequence < second.dispatchSequence →
        first.status = .succeeded ∨ first.status = .dead

/-- A job is handed out only when all earlier jobs of its ticket have ended, and these do not
come back, whatever calls follow. -/
theorem claims_inOrder (database : Database) (empty : database.jobs = [])
    (events : List RuntimeEvent) :
    ClaimedInOrder (History.run surroundings { database } events) := by
  have start := sound_of_no_jobs database empty
  have later := History.run_refines surroundings { database } events
  have order : FencedLanes.InOrder (History.mk database []).lanes.entries := by
    intro first member
    rw [show (History.mk database []).lanes.entries = [] from congrArg _ empty] at member
    cases member
  have served := order.steps start later
  have counted := (laneSafe_of_sound (start.steps later)).counted
  intro lease claimed second secondMember named first firstMember same earlier
  have leased : 0 < second.fencingToken := by
    rw [counted second secondMember, List.countP_pos_iff]
    exact ⟨lease, claimed, decide_eq_true named⟩
  have ended := served first.entry (List.mem_map.mpr ⟨first, firstMember, rfl⟩) second.entry
    (List.mem_map.mpr ⟨second, secondMember, rfl⟩) (Prod.ext same.1 same.2) earlier leased
  change first.status.phase = .finished at ended
  cases status : first.status <;> simp [JobStatus.phase, status] at ended ⊢

end

theorem firstLease_over :
    LeaseOver
      (History.run exampleSurroundings { database := laneExample } reclaimEvents).database
      "job_1" 1 := by
  have member : ("job_1", 1, JobStatus.leased, 2) ∈
      (History.run exampleSurroundings { database := laneExample }
        reclaimEvents).database.jobs.map
        (fun job => (job.id, job.dispatchSequence, job.status, job.fencingToken)) := by
    rw [reclaimEvents_jobs]
    exact List.mem_cons_self
  rcases List.mem_map.mp member with ⟨job, present, equal⟩
  simp only [Prod.mk.injEq] at equal
  refine ⟨job, present, equal.1, .inl ?_⟩
  omega

theorem stale_lease_refused_heartbeat :
    laneExample.jobs = [] ∧
      performCall exampleSurroundings firstLease (.heartbeat 30)
          ((History.run exampleSurroundings { database := laneExample } reclaimEvents).run
            exampleSurroundings []).database =
        (.error (.runtimeConflict "stale_fencing_token"),
          ((History.run exampleSurroundings { database := laneExample } reclaimEvents).run
            exampleSurroundings []).database) :=
  ⟨rfl, stale_lease_refused exampleSurroundings laneExample rfl reclaimEvents [] firstLease
    firstLease_over (.heartbeat 30)⟩

/-- The first job succeeds before the second one is claimed. -/
def servedEvents : List RuntimeEvent :=
  [exampleJob "job_1", exampleJob "job_2", .claim "job_1" "worker_a" 30,
    .fenced firstLease (.complete "interrupted"), .claim "job_2" "worker_b" 30]

theorem claims_inOrder_served :
    laneExample.jobs = [] ∧
      (History.run exampleSurroundings { database := laneExample } servedEvents).claims.map
          JobLease.jobId = ["job_1", "job_2"] ∧
      ClaimedInOrder
        (History.run exampleSurroundings { database := laneExample } servedEvents) :=
  ⟨rfl, by decide +kernel, claims_inOrder exampleSurroundings laneExample rfl servedEvents⟩

end SupportGuard
