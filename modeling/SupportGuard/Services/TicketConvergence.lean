import SupportGuard.Services.ApprovalLifecycle

/-! # The status of a ticket in SQL

`supportguard_internal_converge_ticket_status`, which production runs in place of
`converge_ticket`, and its agreement with it. -/

namespace SupportGuard

open Foundation Program

/-! ## The function of the database -/

inductive ConvergenceRaise
  | defaultStatusInvalid
  | ticketMissing
deriving DecidableEq, Repr

def convergenceDefaults : List String :=
  ["open", "running", "queued", "awaiting_approval", "verification_pending",
    "needs_clarification", "resolved", "rejected", "manual_takeover", "failed"]

namespace Database

variable (database : Database) (tenantId ticketId : String)

def existsOpenTurn : Bool :=
  database.turns.any fun turn =>
    turn.tenantId = tenantId && turn.ticketId = ticketId &&
      turn.activityState ∈ ["queued", "running"]

def existsOpenJob : Bool :=
  database.jobs.any fun job =>
    job.tenantId = tenantId && job.ticketId = ticketId &&
      job.status ∈ [.queued, .retryWait, .leased]

/-- The rows of the join that meet the condition. -/
def existsUnverified : Bool :=
  database.approvals.any fun approval => database.jobs.any fun job =>
    (job.tenantId = approval.tenantId && job.ticketId = approval.ticketId &&
        job.approvalId = some approval.id) &&
      (approval.tenantId = tenantId && approval.ticketId = ticketId &&
        approval.status = .approved && job.status = .succeeded &&
        job.outcome = some "verification_pending")

def existsOpenApproval : Bool :=
  database.approvals.any fun approval =>
    approval.tenantId = tenantId && approval.ticketId = ticketId &&
      approval.status ∈ [.pending, .approved]

end Database

/-- `supportguard_internal_converge_ticket_status`. -/
def convergeTicketStatus (tenantId ticketId : String) (defaultStatus : Option String) :
    Program Database ConvergenceRaise String := do
  let accepted ← require (defaultStatus.filter (· ∈ convergenceDefaults)) .defaultStatusInvalid
  let database ← reads id
  let ticket ← require
    (database.tickets.find? fun row => row.tenantId = tenantId && row.id = ticketId)
    .ticketMissing
  if ticket.lifecycle ≠ "active" ∨ ticket.automationMode ≠ "agent" then pure ticket.status
  else do
    let status :=
      if database.existsOpenTurn tenantId ticketId || database.existsOpenJob tenantId ticketId then
        "queued"
      else if database.existsUnverified tenantId ticketId then "verification_pending"
      else if database.existsOpenApproval tenantId ticketId then "awaiting_approval"
      else accepted
    let clears := status ∈ ["running", "queued", "awaiting_approval", "verification_pending"]
    modify fun database =>
      { database with
        tickets := database.tickets.map fun row =>
          if (row.tenantId = tenantId ∧ row.id = ticketId) ∧
              (row.status ≠ status ∨ clears ∧ row.finalResponse.isSome) then
            { row with
              status
              finalResponse := if clears then none else row.finalResponse
              version := row.version + 1 }
          else row }
    pure status

/-! ## The same conditions -/

variable {database : Database} {ticket : SupportTicket} {defaultStatus : String}

namespace Database

theorem existsOpenTurn_eq :
    database.existsOpenTurn ticket.tenantId ticket.id = database.hasActiveTurn ticket := by
  simp [existsOpenTurn, hasActiveTurn]

theorem existsOpenJob_eq :
    database.existsOpenJob ticket.tenantId ticket.id = database.hasActiveJob ticket := by
  have sameStatus : ∀ status : JobStatus,
      decide (status ∈ [.queued, .retryWait, .leased]) = status.occupiesLane := by
    intro status
    cases status <;> rfl
  simp only [existsOpenJob, hasActiveJob, sameStatus]

/-- The conditions of the join may be read in either order. -/
theorem existsUnverified_eq :
    database.existsUnverified ticket.tenantId ticket.id =
      database.hasPendingVerification ticket := by
  rw [Bool.eq_iff_iff]
  simp only [existsUnverified, hasPendingVerification, List.any_eq_true, Bool.and_eq_true,
    decide_eq_true_eq]
  constructor
  · intro unverified
    rcases unverified with ⟨approval, approvalMember, job, jobMember, ⟨⟨tenant, own⟩, bound⟩,
      ⟨⟨⟨sameTenant, sameTicket⟩, approved⟩, succeeded⟩, outcome⟩
    exact ⟨approval, approvalMember, ⟨⟨sameTenant, sameTicket⟩, approved⟩, job, jobMember,
      ⟨⟨⟨tenant, own⟩, bound⟩, succeeded⟩, outcome⟩
  · intro pending
    rcases pending with ⟨approval, approvalMember, ⟨⟨sameTenant, sameTicket⟩, approved⟩, job,
      jobMember, ⟨⟨⟨tenant, own⟩, bound⟩, succeeded⟩, outcome⟩
    exact ⟨approval, approvalMember, job, jobMember, ⟨⟨tenant, own⟩, bound⟩,
      ⟨⟨⟨sameTenant, sameTicket⟩, approved⟩, succeeded⟩, outcome⟩

theorem existsOpenApproval_eq :
    database.existsOpenApproval ticket.tenantId ticket.id = database.hasActiveApproval ticket := by
  have sameStatus : ∀ status : ApprovalStatus,
      decide (status ∈ [.pending, .approved]) = status.isActive := by
    intro status
    cases status <;> rfl
  simp only [existsOpenApproval, hasActiveApproval, sameStatus]

end Database

/-! ## The row afterwards -/

/-- The row of a ticket once its status is the derived one. -/
def SupportTicket.converged (row : SupportTicket) (status : String) : SupportTicket :=
  if row.status ≠ status ∨ clearsResponse status ∧ row.finalResponse.isSome then
    { row with
      status
      finalResponse := if clearsResponse status then none else row.finalResponse
      version := row.version + 1 }
  else row

@[simp] theorem SupportTicket.converged_id (row : SupportTicket) (status : String) :
    (row.converged status).id = row.id := by
  rw [converged]
  split <;> rfl

@[simp] theorem SupportTicket.converged_tenantId (row : SupportTicket) (status : String) :
    (row.converged status).tenantId = row.tenantId := by
  rw [converged]
  split <;> rfl

@[simp] theorem SupportTicket.converged_lifecycle (row : SupportTicket) (status : String) :
    (row.converged status).lifecycle = row.lifecycle := by
  rw [converged]
  split <;> rfl

@[simp] theorem SupportTicket.converged_automationMode (row : SupportTicket) (status : String) :
    (row.converged status).automationMode = row.automationMode := by
  rw [converged]
  split <;> rfl

/-- A row that has converged stays as it is. -/
theorem SupportTicket.converged_converged (row : SupportTicket) (status : String) :
    (row.converged status).converged status = row.converged status := by
  by_cases changes : row.status ≠ status ∨ clearsResponse status ∧ row.finalResponse.isSome
  · have settled : ∀ response : Option String,
        ¬(status ≠ status ∨ clearsResponse status ∧
          (if clearsResponse status then none else response).isSome) := by
      intro response unsettled
      rcases unsettled with differs | ⟨clears, responds⟩
      · exact differs rfl
      · rw [if_pos clears] at responds
        cases responds
    rw [converged, converged, if_pos changes, if_neg (settled _)]
  · rw [converged, converged, if_neg changes, if_neg changes]

/-- A ticket that automation does not drive is left alone. -/
theorem convergeTicket_idle (idle : ticket.lifecycle ≠ "active" ∨ ticket.automationMode ≠ "agent") :
    (convergeTicket ticket defaultStatus).Returns database ticket.status database := by
  have stops : (ticket.lifecycle ≠ "active" || ticket.automationMode ≠ "agent") = true := by
    simpa using idle
  rw [convergeTicket, if_pos stops]
  exact returns_pure.mpr ⟨rfl, rfl⟩

section

variable (unique : (database.tickets.map SupportTicket.id).Nodup)
  (present : ticket ∈ database.tickets)

/-- The database in which a ticket has converged. -/
def Database.converge (database : Database) (ticket : SupportTicket) (status : String) :
    Database :=
  database.updateTicket ticket.id fun row => row.converged status

include unique present

theorem eq_ticket {row : SupportTicket} (member : row ∈ database.tickets)
    (same : row.id = ticket.id) : row = ticket :=
  List.inj_on_of_nodup_map unique member present same

/-- Another change of the ticket's row that comes to the same on this row. -/
theorem converge_eq {status : String} {change : SupportTicket → SupportTicket}
    (same : change ticket = ticket.converged status) :
    database.updateTicket ticket.id change = database.converge ticket status := by
  rw [Database.converge, Database.updateTicket, Database.updateTicket, Table.update, Table.update]
  congr 1
  apply List.map_congr_left
  intro row member
  by_cases own : row.id = ticket.id
  · rw [if_pos own, if_pos own, eq_ticket unique present member own, same]
  · rw [if_neg own, if_neg own]

theorem converge_of_settled {status : String} (settled : ticket.converged status = ticket) :
    database.converge ticket status = database := by
  have kept : database.updateTicket ticket.id id = database := by
    rw [Database.updateTicket, Table.update]
    simp
  have same := @converge_eq database ticket unique present status id settled.symm
  rw [← same, kept]

/-- `converge_ticket` as one change. -/
theorem convergeTicket_returns (lively : ticket.lifecycle = "active")
    (automated : ticket.automationMode = "agent") :
    (convergeTicket ticket defaultStatus).Returns database
      (convergedStatus database ticket defaultStatus)
      (database.converge ticket (convergedStatus database ticket defaultStatus)) := by
  generalize isStatus : convergedStatus database ticket defaultStatus = status
  have onward : ¬((ticket.lifecycle ≠ "active" || ticket.automationMode ≠ "agent") = true) := by
    simp [lively, automated]
  rw [convergeTicket, if_neg onward, returns_readsId_bind]
  dsimp only
  rw [isStatus]
  refine returns_bind.mpr ⟨(), _, returns_onlyIf.mpr ?_, returns_pure.mpr ⟨rfl, rfl⟩⟩
  split
  · rename_i changes
    rw [returns_modify]
    symm
    apply converge_eq unique present
    rw [SupportTicket.converged, if_pos changes]
  · rename_i settled
    apply converge_of_settled unique present
    rw [SupportTicket.converged, if_neg settled]

theorem findTicket_eq : (database.tickets.find? fun row =>
    row.tenantId = ticket.tenantId && row.id = ticket.id) = some ticket := by
  have found := @Table.find?_and_of_find _ _ _ SupportTicket.id database.tickets ticket.id ticket
    (fun row => row.tenantId = ticket.tenantId) _ (Table.find_of_mem unique present) rfl
  rw [← found]
  congr 1
  funext row
  exact Bool.and_comm _ _

/-- The function of the database as one change. -/
theorem convergeTicketStatus_returns (accepted : defaultStatus ∈ convergenceDefaults)
    (lively : ticket.lifecycle = "active") (automated : ticket.automationMode = "agent") :
    (convergeTicketStatus ticket.tenantId ticket.id (some defaultStatus)).Returns database
      (convergedStatus database ticket defaultStatus)
      (database.converge ticket (convergedStatus database ticket defaultStatus)) := by
  have onward : ¬(ticket.lifecycle ≠ "active" ∨ ticket.automationMode ≠ "agent") := by
    simp [lively, automated]
  rw [convergeTicketStatus, returns_require_bind]
  refine ⟨defaultStatus, by simp [accepted], ?_⟩
  rw [returns_readsId_bind, returns_require_bind]
  refine ⟨ticket, findTicket_eq unique present, ?_⟩
  rw [if_neg onward]
  dsimp only
  rw [Database.existsOpenTurn_eq, Database.existsOpenJob_eq, Database.existsUnverified_eq,
    Database.existsOpenApproval_eq, ← convergedStatus, returns_modify_bind, returns_pure]
  refine ⟨rfl, ?_⟩
  generalize convergedStatus database ticket defaultStatus = status
  rw [Database.converge, Database.updateTicket, Table.update]
  congr 1
  apply List.map_congr_left
  intro row member
  by_cases own : row.id = ticket.id
  · have same := eq_ticket unique present member own
    subst same
    rw [if_pos rfl, SupportTicket.converged]
    simp only [clearsResponse, decide_eq_true_eq, true_and, and_self]
  · rw [if_neg own, if_neg fun written => own written.1.2]

theorem convergeTicketStatus_idle (accepted : defaultStatus ∈ convergenceDefaults)
    (idle : ticket.lifecycle ≠ "active" ∨ ticket.automationMode ≠ "agent") :
    (convergeTicketStatus ticket.tenantId ticket.id (some defaultStatus)).Returns database
      ticket.status database := by
  rw [convergeTicketStatus, returns_require_bind]
  refine ⟨defaultStatus, by simp [accepted], ?_⟩
  rw [returns_readsId_bind, returns_require_bind]
  refine ⟨ticket, findTicket_eq unique present, ?_⟩
  rw [if_pos idle]
  exact returns_pure.mpr ⟨rfl, rfl⟩

end

/-! ## Both agree -/

/-- The two return the same status and leave the same database. -/
structure ConvergesTo (ticket : SupportTicket) (defaultStatus : String) (database : Database)
    (status : String) (after : Database) : Prop where
  application : (convergeTicket ticket defaultStatus).Returns database status after
  kernel : (convergeTicketStatus ticket.tenantId ticket.id (some defaultStatus)).Returns database
    status after

theorem convergesTo_of_mem (unique : (database.tickets.map SupportTicket.id).Nodup)
    (present : ticket ∈ database.tickets) (accepted : defaultStatus ∈ convergenceDefaults)
    (lively : ticket.lifecycle = "active" ∧ ticket.automationMode = "agent") :
    ConvergesTo ticket defaultStatus database (convergedStatus database ticket defaultStatus)
      (database.converge ticket (convergedStatus database ticket defaultStatus)) :=
  ⟨convergeTicket_returns unique present lively.1 lively.2,
    convergeTicketStatus_returns unique present accepted lively.1 lively.2⟩

theorem Database.converge_unique (unique : (database.tickets.map SupportTicket.id).Nodup)
    (status : String) : ((database.converge ticket status).tickets.map SupportTicket.id).Nodup := by
  rw [Database.converge, Database.updateTicket]
  dsimp only
  rw [Table.map_update fun row => SupportTicket.converged_id row status]
  exact unique

theorem Database.mem_converge (present : ticket ∈ database.tickets) (status : String) :
    ticket.converged status ∈ (database.converge ticket status).tickets := by
  rw [Database.converge, Database.updateTicket, Table.mem_update]
  exact .inr ⟨ticket, present, rfl, rfl⟩

/-- The status is derived from the work below the ticket alone. -/
theorem convergedStatus_converge (status : String) :
    convergedStatus (database.converge ticket status) (ticket.converged status) defaultStatus =
      convergedStatus database ticket defaultStatus := by
  simp only [convergedStatus, Database.hasActiveTurn, Database.hasActiveJob,
    Database.hasPendingVerification, Database.hasActiveApproval, SupportTicket.converged_id,
    SupportTicket.converged_tenantId]
  rfl

/-- Whatever the ticket and the work below it, the application and the database come to the
same status, response and version, and a second call changes nothing. -/
theorem convergeTicket_agrees (unique : (database.tickets.map SupportTicket.id).Nodup)
    (present : ticket ∈ database.tickets) (accepted : defaultStatus ∈ convergenceDefaults) :
    ∃ status converged after, ConvergesTo ticket defaultStatus database status after ∧
      Table.find SupportTicket.id after.tickets ticket.id = some converged ∧
        ConvergesTo converged defaultStatus after status after := by
  by_cases lively : ticket.lifecycle = "active" ∧ ticket.automationMode = "agent"
  · generalize isStatus : convergedStatus database ticket defaultStatus = status
    have first := convergesTo_of_mem unique present accepted lively
    have again := convergesTo_of_mem (Database.converge_unique unique status)
      (Database.mem_converge present status) accepted (by simpa using lively)
    have settled := converge_of_settled (Database.converge_unique unique status)
      (Database.mem_converge present status) (ticket.converged_converged status)
    rw [isStatus] at first
    rw [convergedStatus_converge, isStatus, settled] at again
    have found := Table.find_of_mem (Database.converge_unique unique status)
      (Database.mem_converge present status)
    rw [SupportTicket.converged_id] at found
    exact ⟨status, ticket.converged status, _, first, found, again⟩
  · have idle : ticket.lifecycle ≠ "active" ∨ ticket.automationMode ≠ "agent" := by
      by_contra driven
      push Not at driven
      exact lively driven
    have stays : ConvergesTo ticket defaultStatus database ticket.status database :=
      ⟨convergeTicket_idle idle, convergeTicketStatus_idle unique present accepted idle⟩
    exact ⟨ticket.status, ticket, database, stays, Table.find_of_mem unique present, stays⟩

/-- A ticket with an answer, and the customer's next message. -/
def answeredTicket : SupportTicket where
  id := "ticket"
  tenantId := "acme"
  customerId := "customer"
  status := "resolved"
  finalResponse := some "The charge was refunded."

def followedUp : Database where
  tickets := [answeredTicket]
  turns :=
    [{ id := "turn", tenantId := "acme", ticketId := "ticket", customerMessageId := "message",
       ordinal := 2, activityState := "queued" }]

theorem convergeTicket_agrees_followedUp :
    convergedStatus followedUp answeredTicket "resolved" = "queued" ∧
      ∃ status converged after, ConvergesTo answeredTicket "resolved" followedUp status after ∧
        Table.find SupportTicket.id after.tickets "ticket" = some converged ∧
          ConvergesTo converged "resolved" after status after :=
  ⟨by decide, convergeTicket_agrees (by decide) (List.mem_singleton_self _) (by decide)⟩

end SupportGuard
