import SupportGuard.Mcp.Supervisor

/-! # Failures of calls on older sessions

A stop cancels the calls that are pending when it begins, but it drops the session only after
it has waited for them. A call that the gate admits meanwhile is sent on the old session, and
is not cancelled. -/

namespace SupportGuard

open Foundation Run

namespace SupervisedServer

/-! ## Generations -/

/-- A turn of a coroutine may begin the next generation. -/
def Advances (before after : SupervisedServer) : Prop :=
  after.server.generation = before.server.generation ∨
    after.server.generation = before.server.generation + 1

@[simp] theorem generation_failCall (system : SupervisedServer) (call : Nat) (late : Bool) :
    (system.failCall call late).server.generation = system.server.generation := rfl

@[simp] theorem generation_send (system : SupervisedServer) (call : Nat) :
    (system.send call).server.generation = system.server.generation := by
  unfold send
  split <;> rfl

@[simp] theorem generation_startCall (system : SupervisedServer) (call : Nat) :
    (system.startCall call).server.generation = system.server.generation := by
  simp only [startCall]
  split
  · rfl
  · split
    · exact generation_send system call
    · rfl

@[simp] theorem generation_finishRehandshake (system : SupervisedServer) (call observed : Nat) :
    (system.finishRehandshake call observed).server.generation = system.server.generation := rfl

@[simp] theorem generation_beginStop (system : SupervisedServer) (call observed : Nat)
    (purpose : StopPurpose) :
    (system.beginStop call observed purpose).server.generation = system.server.generation := by
  simp only [beginStop]
  split <;> rfl

@[simp] theorem generation_reconnect (system : SupervisedServer) (call observed : Nat) :
    (system.reconnect call observed).server.generation = system.server.generation := by
  simp only [reconnect]
  split
  · rfl
  · exact generation_beginStop _ call observed .replace

theorem perform_advances {before after : SupervisedServer} {event : SupervisorEvent}
    (performed : before.perform event = some after) : before.Advances after := by
  unfold Advances
  cases event <;> simp only [perform] at performed
  all_goals
    split at performed <;> try split at performed
  all_goals cases performed
  all_goals simp [setCall, setServer, discard, openSession, dropSession, failRehandshake]

/-! ## Calls and their sessions -/

/-- What holds of a call in a phase while no session is dropped under a pending call: a call
in flight is on the session of now, and who replaces the session has the lock. -/
def Fits (server : ManagedServer) (call : Nat) : CallPhase → Prop
  | .sent session => call ∈ server.pendingCalls ∧ server.session = some session
  | .failed _ late => late = false
  | .draining _ _ => server.reconnectLock = some call
  | .closing _ _ => server.reconnectLock = some call ∧ server.session = none
  | .starting _ => server.reconnectLock = some call ∧ server.session = none
  | .handshaking _ => server.reconnectLock = some call ∧
      server.session = some (server.generation + 1)
  | .fresh => True
  | .waiting => True
  | .ended => True

structure Sound (system : SupervisedServer) : Prop where
  newest : ∀ session, system.server.session = some session → system.server.generation ≤ session
  fits : ∀ call, Fits system.server call (system.calls call)

theorem sound_booted : booted.Sound where
  newest := by
    intro session found
    cases found
    exact Nat.le_refl _
  fits _ := trivial

section Turns

variable {before : SupervisedServer} {call : Nat} {phase : CallPhase}

/-- One call takes a turn: what is left to show is about its new phase and about the others. -/
theorem Sound.turn (sound : before.Sound) (server : ManagedServer)
    (newest : ∀ session, server.session = some session → server.generation ≤ session)
    (fits : Fits server call phase)
    (others : ∀ other, other ≠ call → Fits before.server other (before.calls other) →
      Fits server other (before.calls other)) :
    Sound ((before.setServer server).setCall call phase) where
  newest := newest
  fits other := by
    by_cases same : other = call
    · subst same
      simpa [setCall, setServer] using fits
    · simpa [setCall, setServer, same] using others other same (sound.fits other)

/-- A server whose session, generation and lock are the same fits the same calls, if none of
them has left the pending ones. -/
theorem Fits.same {server next : ManagedServer} {other : Nat} {phase : CallPhase}
    (fits : Fits server other phase) (session : next.session = server.session)
    (generation : next.generation = server.generation)
    (lock : next.reconnectLock = server.reconnectLock)
    (pending : other ∈ server.pendingCalls → other ∈ next.pendingCalls) :
    Fits next other phase := by
  cases phase <;> simp_all [Fits]

/-- A call without the lock asks nothing of the server but that it stays in flight. -/
theorem Fits.beside {server next : ManagedServer} {other : Nat} {phase : CallPhase}
    (fits : Fits server other phase) (free : server.reconnectLock ≠ some other)
    (flying : ∀ session, other ∈ server.pendingCalls → server.session = some session →
      other ∈ next.pendingCalls ∧ next.session = some session) :
    Fits next other phase := by
  cases phase with
  | sent session => exact flying session fits.1 fits.2
  | failed generation late => exact fits
  | draining observed purpose => exact absurd fits free
  | closing observed purpose => exact absurd fits.1 free
  | starting observed => exact absurd fits.1 free
  | handshaking observed => exact absurd fits.1 free
  | fresh => trivial
  | waiting => trivial
  | ended => trivial

theorem lock_ne_of_holder {server : ManagedServer} {other : Nat}
    (holder : server.reconnectLock = some call) (different : other ≠ call) :
    server.reconnectLock ≠ some other := by
  intro held
  rw [holder] at held
  exact different (Option.some.inj held).symm

theorem Sound.failCall (sound : before.Sound) : (before.failCall call false).Sound := by
  apply sound.turn
  · exact sound.newest
  · rfl
  · intro other _ fits
    exact fits.same rfl rfl rfl id

theorem Sound.send (sound : before.Sound) : (before.send call).Sound := by
  unfold SupervisedServer.send
  split
  · exact sound.failCall
  · next session found =>
    apply sound.turn
    · exact sound.newest
    · exact ⟨by simp, found⟩
    · intro other _ fits
      exact fits.same rfl rfl rfl fun member => List.mem_append_left _ member

theorem Sound.startCall (sound : before.Sound) : (before.startCall call).Sound := by
  simp only [SupervisedServer.startCall]
  split
  · exact sound.failCall
  · split
    · exact sound.send
    · apply sound.turn
      · exact sound.newest
      · trivial
      · intro other _ fits
        exact fits.same rfl rfl rfl id

/-- A call that leaves the pending ones for a phase without any obligation. -/
theorem Sound.leave (sound : before.Sound) (state : SupervisorState)
    (free : ∀ server, Fits server call phase) :
    Sound ((before.setServer { (before.discard call).server with state := state }).setCall call
      phase) := by
  apply sound.turn
  · exact sound.newest
  · exact free _
  · intro other different fits
    refine fits.same ?_ ?_ ?_ ?_
    · rfl
    · rfl
    · rfl
    · intro member
      exact List.mem_filter.2 ⟨member, by simpa using different⟩

variable {observed : Nat}

/-- The holder of the lock drops the session while no call is pending. -/
theorem Sound.dropSession (sound : before.Sound) {purpose : StopPurpose}
    (holder : before.server.reconnectLock = some call) (idle : before.server.pendingCalls = []) :
    (before.dropSession call observed purpose).Sound := by
  apply sound.turn
  · intro session found
    cases found
  · exact ⟨holder, rfl⟩
  · intro other different fits
    apply fits.beside (lock_ne_of_holder holder different)
    intro session pending
    rw [idle] at pending
    exact absurd pending List.not_mem_nil

/-- A stop forgets the phase that its call was in. -/
theorem beginStop_setCall {system : SupervisedServer} (phase : CallPhase) {purpose : StopPurpose} :
    (system.setCall call phase).beginStop call observed purpose =
      system.beginStop call observed purpose := by
  simp only [SupervisedServer.beginStop, SupervisedServer.dropSession, setCall, setServer,
    Function.update_idem]
  rfl

theorem Sound.beginStop (sound : before.Sound) {purpose : StopPurpose}
    (holder : before.server.reconnectLock = some call) :
    (before.beginStop call observed purpose).Sound := by
  have draining : Sound (before.setServer { before.server with
      state := .draining, cancelled := before.server.pendingCalls }) :=
    ⟨sound.newest, fun other => (sound.fits other).same rfl rfl rfl id⟩
  simp only [SupervisedServer.beginStop]
  split
  · next idle => exact draining.dropSession holder idle
  · apply draining.turn
    · exact sound.newest
    · exact holder
    · intro other _ fits
      exact fits.same rfl rfl rfl id

/-- The holder of the lock gives it back. -/
theorem Sound.release (sound : before.Sound) {state : SupervisorState} {generation : Nat}
    (holder : before.server.reconnectLock = some call)
    (newest : ∀ session, before.server.session = some session → generation ≤ session) :
    Sound ((before.setServer { before.server with
      state := state, generation := generation, reconnectLock := none }).setCall call
        .ended) := by
  apply sound.turn
  · exact newest
  · trivial
  · intro other different fits
    exact fits.beside (lock_ne_of_holder holder different)
      fun session pending found => ⟨pending, found⟩

theorem Sound.reconnect (sound : before.Sound) (free : before.server.reconnectLock = none) :
    (before.reconnect call observed).Sound := by
  simp only [SupervisedServer.reconnect]
  split
  · apply sound.turn
    · exact sound.newest
    · trivial
    · intro other _ fits
      exact fits.same rfl rfl free.symm id
  · apply Sound.beginStop _ rfl
    refine ⟨sound.newest, fun other => ?_⟩
    apply (sound.fits other).beside
    · rw [free]
      exact nofun
    · intro session pending found
      exact ⟨pending, found⟩

/-- The starter of a session has the lock, and no call is in flight. -/
theorem Sound.openSession (sound : before.Sound) (starting : before.calls call = .starting observed)
    (state : SupervisorState) (fits : ∀ server : ManagedServer, server.reconnectLock = some call →
      server.session = some (server.generation + 1) → Fits server call phase) :
    Sound (((before.openSession).setServer { before.openSession.server with
      state := state }).setCall call phase) := by
  have holder := sound.fits call
  rw [starting] at holder
  apply sound.turn
  · intro session found
    cases found
    exact Nat.le_succ _
  · exact fits _ holder.1 rfl
  · intro other different others
    apply others.beside (lock_ne_of_holder holder.1 different)
    intro session _ found
    rw [holder.2] at found
    cases found

end Turns

/-- The session is dropped only when no call is pending any more. -/
def DropsIdle (before : SupervisedServer) (event : SupervisorEvent) (_ : SupervisedServer) :
    Prop :=
  event.isDrained → before.server.pendingCalls = []

/-- An event keeps the invariant if the session is not dropped under a pending call. -/
theorem Sound.perform {before after : SupervisedServer} {event : SupervisorEvent}
    (sound : before.Sound) (performed : before.perform event = some after)
    (idle : DropsIdle before event after) : after.Sound := by
  cases event with
  | start call =>
      simp only [SupervisedServer.perform] at performed
      split at performed <;> cases performed
      exact sound.startCall
  | enter =>
      simp only [SupervisedServer.perform] at performed
      split at performed
      · split at performed <;> cases performed
        apply Sound.send
        exact ⟨sound.newest, fun other => (sound.fits other).same rfl rfl rfl id⟩
      · cases performed
  | result call =>
      simp only [SupervisedServer.perform] at performed
      split at performed <;> cases performed
      exact sound.leave before.server.state fun _ => trivial
  | failure call =>
      simp only [SupervisedServer.perform] at performed
      split at performed <;> cases performed
      next session sent =>
      have fits := sound.fits call
      rw [sent] at fits
      have punctual : decide (session < before.server.generation) = false := by
        have newest := sound.newest session fits.2
        simpa using newest
      rw [punctual]
      exact sound.leave .degraded fun _ => rfl
  | cancellation call =>
      simp only [SupervisedServer.perform] at performed
      split at performed
      · split at performed <;> cases performed
        exact sound.leave before.server.state fun _ => trivial
      · cases performed
  | giveUp call =>
      simp only [SupervisedServer.perform] at performed
      split at performed <;> cases performed
      exact sound.turn before.server sound.newest trivial fun _ _ fits => fits
  | reconnect call =>
      simp only [SupervisedServer.perform] at performed
      split at performed
      · split at performed <;> cases performed
        next free => exact sound.reconnect free
      · cases performed
  | drained call =>
      simp only [SupervisedServer.perform] at performed
      split at performed <;> cases performed
      next observed purpose draining =>
      have holder := sound.fits call
      rw [draining] at holder
      exact sound.dropSession holder (idle rfl)
  | closed call =>
      have fits := sound.fits call
      simp only [SupervisedServer.perform] at performed
      split at performed <;> cases performed
      · next closing =>
        rw [closing] at fits
        apply sound.turn
        · exact sound.newest
        · exact fits
        · intro other _ others
          exact others.same rfl rfl rfl id
      · next closing =>
        rw [closing] at fits
        exact sound.release fits.1 sound.newest
  | stuck call =>
      have fits := sound.fits call
      simp only [SupervisedServer.perform] at performed
      split at performed <;> cases performed
      next closing =>
      rw [closing] at fits
      exact sound.release fits.1 sound.newest
  | opened call =>
      simp only [SupervisedServer.perform] at performed
      split at performed <;> cases performed
      next starting =>
      exact sound.openSession starting .handshaking fun server holder found => ⟨holder, found⟩
  | unidentified call =>
      simp only [SupervisedServer.perform] at performed
      split at performed <;> cases performed
      next observed starting =>
      have fits := sound.fits call
      rw [starting] at fits
      have opened : Sound (before.openSession.setCall call (.draining observed .abort)) :=
        sound.openSession starting before.server.state fun server holder _ => holder
      rw [← beginStop_setCall (.draining observed .abort)]
      exact opened.beginStop fits.1
  | verified call =>
      have fits := sound.fits call
      simp only [SupervisedServer.perform] at performed
      split at performed <;> cases performed
      next handshaking =>
      rw [handshaking] at fits
      apply sound.release fits.1
      intro session found
      rw [fits.2] at found
      cases found
      exact Nat.le_refl _
  | startFailed call =>
      have fits := sound.fits call
      simp only [SupervisedServer.perform] at performed
      split at performed <;> cases performed
      · next starting =>
        rw [starting] at fits
        exact sound.beginStop fits.1
      · next handshaking =>
        rw [handshaking] at fits
        exact sound.beginStop fits.1
  | runnerEnded =>
      simp only [SupervisedServer.perform] at performed
      split at performed <;> cases performed
      exact ⟨sound.newest, fun other => (sound.fits other).same rfl rfl rfl id⟩

/-! ## What late failures may do -/

/-- The generation does not go down, a late failure leaves a server that is ready as it is, and
the call of a late failure stops no session. -/
structure Harmless (before : SupervisedServer) (event : SupervisorEvent)
    (after : SupervisedServer) : Prop where
  generation : before.server.generation ≤ after.server.generation
  failure : ∀ call session, event = .failure call → before.calls call = .sent session →
    session < before.server.generation → before.server.state = .ready →
      after.server.state = .ready
  reconnect : ∀ call generation, event = .reconnect call →
    before.calls call = .failed generation true →
      after.server.reconnectLock = none ∧ after.server.session = before.server.session

theorem Sound.harmless {before after : SupervisedServer} {event : SupervisorEvent}
    (sound : before.Sound) (performed : before.perform event = some after) :
    Harmless before event after where
  generation := by
    obtain same | next := perform_advances performed
    · exact Nat.le_of_eq same.symm
    · omega
  failure := by
    intro call session _ sent late
    have fits := sound.fits call
    rw [sent] at fits
    exact absurd late (Nat.not_lt.2 (sound.newest session fits.2))
  reconnect := by
    intro call generation _ failed
    have fits := sound.fits call
    rw [failed] at fits
    cases fits

/-- How often a run replaces the generation. -/
def replacements (generation : Nat) (system : SupervisedServer) : List SupervisorEvent → Nat
  | [] => 0
  | event :: later =>
      match system.perform event with
      | none => 0
      | some next =>
          (if system.server.generation = generation ∧ next.server.generation ≠ generation then 1
            else 0) + replacements generation next later

theorem replacements_of_lt {generation : Nat} {system : SupervisedServer}
    (passed : generation < system.server.generation) (events : List SupervisorEvent) :
    replacements generation system events = 0 := by
  induction events generalizing system with
  | nil => rfl
  | cons event later induction =>
      rw [replacements]
      split
      · rfl
      · next next performed =>
        have still : generation < next.server.generation := by
          obtain same | advanced := perform_advances performed <;> omega
        rw [induction still, if_neg fun replaced => Nat.ne_of_lt passed replaced.1.symm]

theorem replacements_le_one (generation : Nat) (system : SupervisedServer)
    (events : List SupervisorEvent) : replacements generation system events ≤ 1 := by
  induction events generalizing system with
  | nil => exact Nat.zero_le _
  | cons event later induction =>
      rw [replacements]
      split
      · exact Nat.zero_le _
      · next next performed =>
        split
        · next replaced =>
          have passed : generation < next.server.generation := by
            obtain same | advanced := perform_advances performed <;> omega
          have none_later := replacements_of_lt passed later
          omega
        · rw [Nat.zero_add]
          exact induction next

/-- In a run that drops no session under a pending call, late failures do no harm. -/
theorem late_failures_harmless (events : List SupervisorEvent)
    (idle : EveryStep perform DropsIdle booted events) :
    EveryStep perform Harmless booted events ∧
      ∀ generation, replacements generation booted events ≤ 1 := by
  constructor
  · apply EveryStep.of_invariant _ sound_booted idle
    intro before event after sound performed dropsIdle
    exact ⟨sound.perform performed dropsIdle, sound.harmless performed⟩
  · intro generation
    exact replacements_le_one generation booted events

instance (before : SupervisedServer) (event : SupervisorEvent) (after : SupervisedServer) :
    Decidable (DropsIdle before event after) :=
  inferInstanceAs (Decidable (_ → _))

/-- A failed call replaces the session after the other one was cancelled and has ended. -/
def drainedRun : List SupervisorEvent :=
  [.start 0, .start 1, .failure 0, .reconnect 0, .cancellation 1, .drained 0, .closed 0,
    .opened 0, .verified 0]

theorem late_failures_harmless_drained :
    (Run.events perform booted drainedRun).isSome ∧
      EveryStep perform DropsIdle booted drainedRun ∧
      EveryStep perform Harmless booted drainedRun ∧
      ∀ generation, replacements generation booted drainedRun ≤ 1 := by
  have idle : EveryStep perform DropsIdle booted drainedRun := by
    decide
  exact ⟨by decide, idle, late_failures_harmless drainedRun idle⟩

/-- Three calls are in flight and two wait when the first one fails. The second waiter is sent
while the stop waits for the cancelled calls, and its request outlives the session. -/
def lateRun : List SupervisorEvent :=
  [.start 0, .start 1, .start 2, .start 3, .start 4, .failure 0, .enter, .reconnect 0,
    .cancellation 1, .enter, .cancellation 2, .cancellation 3, .drained 0, .closed 0, .opened 0,
    .verified 0]

/-- The request fails when the next session is ready: the server is degraded, the failure
records the next generation, and its call then stops the next session. -/
theorem late_failure_degrades :
    ¬ ∀ events, EveryStep perform Harmless booted events ∧
      ∀ generation, replacements generation booted events ≤ 1 := by
  intro claim
  have every := (claim (lateRun ++ .failure 4 :: [.reconnect 4])).1
  have harmless := every.holdsAfter rfl rfl
  have ready := harmless.failure 4 1 rfl rfl (by decide) rfl
  exact absurd ready (by decide)

end SupervisedServer

end SupportGuard
