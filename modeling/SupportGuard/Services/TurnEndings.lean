import SupportGuard.Services.ToolRecovery

/-! # How turn groups end

A turn group is closed or aborted. Neither call looks at the status before it writes its own, so
a turn that has ended one way can be ended the other way under the same lease. -/

namespace SupportGuard

open Foundation Program

/-! ## Endings -/

def TurnGroupStatus.ended : TurnGroupStatus → Bool
  | .closed | .aborted => true
  | .open | .completing => false

def Database.turnStatus? (database : Database) (turnId : String) : Option TurnGroupStatus :=
  (Table.find TurnGroup.id database.turnGroups turnId).map TurnGroup.status

/-- What has ended keeps its status. -/
def EndingsKept (before after : Database) : Prop :=
  ∀ turnId status, before.turnStatus? turnId = some status → status.ended = true →
    after.turnStatus? turnId = some status

theorem EndingsKept.refl (database : Database) : EndingsKept database database :=
  fun _ _ found _ => found

theorem EndingsKept.trans {first second third : Database} (early : EndingsKept first second)
    (late : EndingsKept second third) : EndingsKept first third :=
  fun turnId status found ended => late turnId status (early turnId status found ended) ended

instance : Std.Refl EndingsKept :=
  ⟨EndingsKept.refl⟩

instance : IsTrans Database EndingsKept where
  trans _ _ _ := EndingsKept.trans

variable {before after : Database}

theorem endingsKept_of_same (same : after.turnGroups = before.turnGroups) :
    EndingsKept before after := by
  intro turnId status found _
  rw [Database.turnStatus?, same]
  exact found

theorem WritesOnly.keepsEndings {ε α : Type} {tables : List DatabaseTable}
    {program : Program Database ε α} (writes : WritesOnly tables program)
    (outside : .turnGroups ∉ tables) : Relates EndingsKept program :=
  fun _ _ _ returned => endingsKept_of_same (writes.returns returned .turnGroups outside)

/-- A change of one turn that has not ended, or that keeps its status. -/
theorem endingsKept_update {before : Database} {turn : TurnGroup}
    {change : TurnGroup → TurnGroup} (ids : ∀ row, (change row).id = row.id)
    (found : Table.find TurnGroup.id before.turnGroups turn.id = some turn)
    (keeps : turn.status.ended = true → (change turn).status = turn.status) :
    EndingsKept before (before.updateTurnGroup turn.id change) := by
  intro turnId status present ended
  simp only [Database.turnStatus?, Database.updateTurnGroup, Table.find_update ids,
    Option.map_map] at present ⊢
  by_cases same : turnId = turn.id
  · subst same
    rw [found] at present ⊢
    cases present
    simp [keeps ended]
  · simp only [same, if_false] at present ⊢
    exact present

/-! ## Each call -/

theorem relates_insertTurnGroup (turn : TurnGroup) :
    Relates EndingsKept (insertTurnGroup turn) := by
  intro before result after returned
  simp only [insertTurnGroup, returns_bind, returns_reads, returns_refuseWhen, returns_modify,
    and_assoc, exists_and_left, exists_eq_left, exists_const, id] at returned
  obtain ⟨unused, _, rfl⟩ := returned
  intro turnId status found _
  have different : turn.id ≠ turnId := by
    intro same
    subst same
    rw [Database.turnStatus?, Option.map_eq_some_iff] at found
    obtain ⟨other, present, _⟩ := found
    have named := Table.find_mem present
    simp only [List.any_eq_true, decide_eq_true_eq, not_exists, not_and] at unused
    exact unused other named.1 named.2
  rw [Database.turnStatus?, Table.find_append_of_ne different]
  exact found

theorem callsAside_turnGroups : CallsAside Database.turnGroups :=
  ⟨fun _ _ => rfl, fun _ _ => rfl⟩

/-- What leaves the turns as they are keeps their endings. -/
theorem relatesEndings_of_keeps {ε α : Type} {program : Program Database ε α}
    (keeps : Keeps Database.turnGroups program) : Relates EndingsKept program :=
  fun _ _ _ returned => endingsKept_of_same (keeps.returns returned)

theorem relates_openTurn_endings (registryHash : String) (lease : JobLease)
    (request : TurnRequest) : Relates EndingsKept (openTurn registryHash lease request) := by
  refine relates_bind (keeps_assertFence lease).relates fun _ => ?_
  refine relates_bind (keeps_refuseWhen _ _).relates fun _ => ?_
  refine relates_bind (keeps_reads _).relates fun _ => ?_
  refine relates_bind (keeps_refuseWhen _ _).relates fun _ => ?_
  refine relates_bind (keeps_ofExcept _).relates fun _ => ?_
  refine relates_bind (keeps_ofExcept _).relates fun _ => ?_
  refine relates_bind (relates_insertTurnGroup _) fun _ => ?_
  refine relates_bind (keeps_ofExcept _).relates fun invocations => ?_
  refine relates_bind ?_ fun _ => relates_pure _
  exact relatesEndings_of_keeps (callsAside_turnGroups.insertInvocations invocations)

theorem relates_takeover_endings (lease : JobLease) (turnId : String) :
    Relates EndingsKept (takeover lease turnId) := by
  intro before result after returned
  simp only [takeover, assertFence, returns_bind, returns_reads, returns_require,
    returns_refuseWhen, returns_modify, returns_pure, and_assoc, exists_and_left,
    exists_eq_left, exists_const, id] at returned
  obtain ⟨_, _, turn, found, _, _, _, _, rfl⟩ := returned
  have named := (Table.find_mem found).2
  subst named
  exact endingsKept_update (fun _ => rfl) found fun _ => rfl

/-- The turn has ended in the given way, and the lease may write to it. -/
def Database.endedUnder (database : Database) (lease : JobLease) (turnId : String)
    (status : TurnGroupStatus) : Prop :=
  (fencedJob? database lease).isSome = true ∧
    ∃ turn, Table.find TurnGroup.id database.turnGroups turnId = some turn ∧
      turn.status = status ∧ turn.fencingToken = lease.fencingToken

/-- A call that ends a turn which has ended the other way. -/
def Database.overturns (database : Database) (lease : JobLease) : FencedCall → Prop
  | .closeTurn turnId => database.endedUnder lease turnId .aborted
  | .abortPending turnId _ _ _ _ => database.endedUnder lease turnId .closed
  | _ => False

theorem closeTurn_endings {lease : JobLease} {turnId : String} {result : TurnGroup}
    (returned : (closeTurn lease turnId).Returns before result after)
    (keeps : ¬before.endedUnder lease turnId .aborted) : EndingsKept before after := by
  simp only [closeTurn, returns_bind, returns_reads, returns_require, returns_refuseWhen,
    returns_modify, returns_pure, assertFence, and_assoc, exists_and_left, exists_eq_left,
    exists_const, id] at returned
  obtain ⟨job, fenced, turn, found, token, _, _, rfl⟩ := returned
  have named := (Table.find_mem found).2
  subst named
  refine endingsKept_update ?_ found ?_
  · intro row
    rfl
  intro ended
  cases status : turn.status with
  | closed => rfl
  | aborted => exact absurd ⟨by rw [fenced]; rfl, turn, found, status, not_not.mp token⟩ keeps
  | «open» | completing => simp [status, TurnGroupStatus.ended] at ended

theorem abortPending_endings {dumpAborted : AbortedCall → List (PyKey × PyValue)} {lease : JobLease}
    {turnId ticketId reason : String} {now : Instant} {draw : String → String} {result : TurnGroup}
    (returned : (abortPending dumpAborted lease turnId ticketId reason now draw).Returns before
      result after) (keeps : ¬before.endedUnder lease turnId .closed) :
    EndingsKept before after := by
  simp only [abortPending, returns_bind, returns_reads, returns_require, returns_refuseWhen,
    returns_modify, returns_pure, assertFence, and_assoc, exists_and_left, exists_eq_left,
    exists_const, id] at returned
  obtain ⟨job, fenced, turn, found, token, _, middle, aborted, _, rfl⟩ := returned
  have named := (Table.find_mem found).2
  subst named
  have same : middle.turnGroups = before.turnGroups :=
    (callsAside_turnGroups.abortInvocations _ _ _ _ _ _ _).returns aborted
  apply (endingsKept_of_same same).trans
  rw [← same] at found
  refine endingsKept_update ?_ found ?_
  · intro row
    rfl
  intro ended
  cases status : turn.status with
  | aborted => rfl
  | closed =>
      rw [same] at found
      exact absurd ⟨by rw [fenced]; rfl, turn, found, status, not_not.mp token⟩ keeps
  | «open» | completing => simp [status, TurnGroupStatus.ended] at ended

/-! ## Every event -/

theorem relates_performCall_endings (surroundings : Surroundings) {lease : JobLease}
    {call : FencedCall} {result : Unit}
    (returned : (performCall surroundings lease call).Returns before result after)
    (keeps : ¬before.overturns lease call) : EndingsKept before after := by
  cases call with
  | heartbeat => exact (writesOnly_heartbeat _ _).keepsEndings (by decide) returned
  | fail =>
      exact relates_forgetResult ((writesOnly_fail _ _ _ _ _ _).keepsEndings (by decide)) returned
  | terminalFail =>
      exact relates_forgetResult ((writesOnly_terminalFail _ _ _ _).keepsEndings (by decide))
        returned
  | complete => exact (writesOnly_complete _ _).keepsEndings (by decide) returned
  | reserve =>
      exact relates_forgetResult ((writesOnly_reserve _ _).keepsEndings (by decide)) returned
  | finish => exact (writesOnly_finish _ _ _).keepsEndings (by decide) returned
  | reserveToolRound =>
      exact relates_forgetResult ((writesOnly_reserveToolRound _).keepsEndings (by decide))
        returned
  | openTurn => exact relates_forgetResult (relates_openTurn_endings _ _ _) returned
  | markExecuting =>
      exact relates_forgetResult
        (relatesEndings_of_keeps (callsAside_turnGroups.markExecuting _ _)) returned
  | terminalize =>
      exact relates_forgetResult
        (relatesEndings_of_keeps (callsAside_turnGroups.terminalize _ _ _ _ _ _)) returned
  | closeTurn turnId =>
      obtain ⟨turn, closed⟩ := returns_forgetResult.mp returned
      exact closeTurn_endings closed keeps
  | takeover => exact relates_forgetResult (relates_takeover_endings _ _) returned
  | abortPending turnId ticketId reason now draw =>
      obtain ⟨turn, aborted⟩ := returns_forgetResult.mp returned
      exact abortPending_endings aborted keeps

theorem endingsKept_atomically {α : Type} {program : Program Database RuntimeRaise α}
    (database : Database) (relates : ∀ {result final}, program.Returns database result final →
      EndingsKept database final) : EndingsKept database (atomically program database).2 := by
  rcases atomically_cases program database with ⟨value, final, returned, equal⟩ | ⟨error, equal⟩
  · rw [equal]
    exact relates returned
  · rw [equal]
    exact .refl database

namespace Recovery

/-- An event that ends a turn which has ended the other way. -/
def Overturns (recovery : Recovery) : LedgerEvent → Prop
  | .runtime (.fenced lease call) _ => recovery.history.database.overturns lease call
  | _ => False

section

variable (surroundings : Surroundings)
variable (validateEnvelope : Json → Option ObservationEnvelope)

theorem next_endings (recovery : Recovery) {event : LedgerEvent}
    (keeps : ¬recovery.Overturns event) :
    EndingsKept recovery.history.database
      (recovery.next surroundings validateEnvelope event).history.database := by
  cases event with
  | runtime event quiet =>
      cases event with
      | tick later => exact endingsKept_of_same rfl
      | create request =>
          exact endingsKept_atomically _
            ((writesOnly_create request).keepsEndings (by decide) ·)
      | claim jobId owner leaseSeconds =>
          have step := endingsKept_atomically recovery.history.database
            ((writesOnly_claim jobId owner leaseSeconds).keepsEndings (by decide) ·)
          simp only [Recovery.next, History.next]
          rcases atomically_cases (claim jobId owner leaseSeconds) recovery.history.database with
            ⟨lease, final, _, equal⟩ | ⟨error, equal⟩
          · simp only [equal]
            rw [equal] at step
            exact step
          · simp only [equal]
            exact .refl _
      | fenced lease call =>
          exact endingsKept_atomically _
            (relates_performCall_endings surroundings · keeps)
  | requeueExpired jobId now =>
      have writes : WritesOnly [.jobs] (requeueExpired jobId now) := by
        apply writesOnly_bind (writesOnly_reads _)
        intro database
        apply writesOnly_whenSome
        intro job
        apply writesOnly_onlyIf
        exact writesOnly_modify .jobs (by decide) fun database table other =>
          same_updateJob database job.id _ table other
      exact endingsKept_atomically _ (writes.keepsEndings (by decide) ·)
  | nextTransportOrdinal lease invocationId =>
      simp only [Recovery.next]
      split <;> exact .refl _
  | reserveRead lease invocationId ordinal attemptId transportId =>
      simp only [Recovery.next]
      split
      · exact endingsKept_atomically _ ((writesOnly_reserve _ _).keepsEndings (by decide) ·)
      · exact .refl _
  | replayTerminalObservation lease invocationId request =>
      have same := keeps_replayTerminalObservation validateEnvelope lease invocationId request
      exact endingsKept_atomically _ (same.relates ·)

/-- No event of the run ends a turn which has ended the other way. -/
def OverturnsNothing (recovery : Recovery) : List LedgerEvent → Prop
  | [] => True
  | event :: later => ¬recovery.Overturns event ∧
      OverturnsNothing (recovery.next surroundings validateEnvelope event) later

theorem run_endings {recovery : Recovery} {events : List LedgerEvent}
    (keeps : recovery.OverturnsNothing surroundings validateEnvelope events) :
    EndingsKept recovery.history.database
      (recovery.run surroundings validateEnvelope events).history.database := by
  induction events generalizing recovery with
  | nil => exact .refl _
  | cons event later induction =>
      exact (recovery.next_endings surroundings validateEnvelope keeps.1).trans
        (induction keeps.2)

end

end Recovery

/-- From any state that a history has reached, a turn that has ended keeps its status, as long as
no call ends it the other way under a lease that may write to it. -/
theorem turnEndings_final (surroundings : Surroundings)
    (validateEnvelope : Json → Option ObservationEnvelope) (database : Database)
    (earlier later : List LedgerEvent) (turnId : String) (status : TurnGroupStatus)
    (keeps : (Recovery.run surroundings validateEnvelope { history := { database } }
      earlier).OverturnsNothing surroundings validateEnvelope later)
    (reached : (Recovery.run surroundings validateEnvelope { history := { database } }
      earlier).history.database.turnStatus? turnId = some status)
    (ended : status.ended = true) :
    ((Recovery.run surroundings validateEnvelope { history := { database } } earlier).run
      surroundings validateEnvelope later).history.database.turnStatus? turnId = some status :=
  Recovery.run_endings surroundings validateEnvelope keeps turnId status reached ended

/-- The lease under which the turn of the example was taken over. -/
def takeoverLease : JobLease :=
  { firstLease with
    owner := "worker_b"
    fencingToken := 2
    expiresAt := ⟨90000000, Instant.minuteAndHalf_inRange⟩ }

/-- The turn is taken over, observed and closed. -/
def closingEvents : List LedgerEvent :=
  takeoverEvents ++ [.runtime (.fenced takeoverLease (.closeTurn "turn")) rfl]

def abortEvent (lease : JobLease) : LedgerEvent :=
  .runtime (.fenced lease (.abortPending "turn" "ticket_1" "aborted"
    ⟨60000000, Instant.minute_inRange⟩ fun id => id)) rfl

def afterClosing : Recovery :=
  Recovery.run exampleSurroundings (fun _ => none) { history := { database := laneExample } }
    closingEvents

theorem afterClosing_status : afterClosing.history.database.turnStatus? "turn" = some .closed := by
  decide +kernel

/-- The first worker has lost its lease and cannot abort the turn. -/
theorem turnEndings_final_stale :
    (afterClosing.run exampleSurroundings (fun _ => none)
      [abortEvent firstLease]).history.database.turnStatus? "turn" = some .closed := by
  apply turnEndings_final exampleSurroundings (fun _ => none) laneExample closingEvents
    [abortEvent firstLease] "turn" .closed _ afterClosing_status rfl
  refine ⟨?_, trivial⟩
  intro overturns
  have lost : (fencedJob? afterClosing.history.database firstLease).isSome = false := by
    decide +kernel
  exact Bool.noConfusion (overturns.1.symm.trans lost)

/-- The worker that has closed a turn can abort it. -/
theorem closedTurn_aborted :
    ¬ ∀ (surroundings : Surroundings) (validateEnvelope : Json → Option ObservationEnvelope)
        (database : Database) (earlier later : List LedgerEvent) (turnId : String)
        (status : TurnGroupStatus),
      (Recovery.run surroundings validateEnvelope { history := { database } }
        earlier).history.database.turnStatus? turnId = some status →
      status.ended = true →
      ((Recovery.run surroundings validateEnvelope { history := { database } } earlier).run
        surroundings validateEnvelope later).history.database.turnStatus? turnId =
          some status := by
  intro property
  have kept := property exampleSurroundings (fun _ => none) laneExample closingEvents
    [abortEvent takeoverLease] "turn" .closed afterClosing_status rfl
  have aborted : (afterClosing.run exampleSurroundings (fun _ => none)
      [abortEvent takeoverLease]).history.database.turnStatus? "turn" = some .aborted := by
    decide +kernel
  cases kept.symm.trans aborted

end SupportGuard
