import SupportGuard.Mcp.Supervisor

/-! # The calls of the gateway, one after another

`MCPManager` keeps a server for reads and one for actions. A call that fails leaves its server
degraded, and a server that is not ready refuses the next call before anything is sent. Only
`rehandshake_read` makes a server ready again, and only that of the reads. -/

namespace SupportGuard

inductive SendOutcome
  | result
  | timeout
  | protocolError
deriving DecidableEq

inductive GatewayOperation
  | callRead (outcome : SendOutcome)
  | callAction (outcome : SendOutcome)
  | rehandshakeRead (failedGeneration : Option Nat)
deriving DecidableEq

namespace ManagedServer

/-- The server after its first start. -/
def started : ManagedServer where
  state := .ready
  generation := 1
  session := some 1
  runner := .running

/-- How often a call has sent its request, and the server after it. -/
def call (server : ManagedServer) (outcome : SendOutcome) : Nat × ManagedServer :=
  if server.session = none ∨ server.runner = .done ∨ server.state ≠ .ready then
    (0, { server with state := .degraded })
  else if outcome = .result then
    (1, server)
  else
    (1, { server with state := .degraded })

/-- A stop and a start, with no call pending. -/
def replaceSession (server : ManagedServer) : ManagedServer :=
  { server with
    state := .ready
    generation := server.generation + 1
    session := some (server.generation + 1)
    runner := .running
    reconnects := server.reconnects + 1 }

def reconnect (server : ManagedServer) (failedGeneration : Nat) : ManagedServer :=
  if server.generation ≠ failedGeneration ∧ server.state = .ready then server
  else server.replaceSession

def rehandshake (server : ManagedServer) (failedGeneration : Option Nat) : ManagedServer :=
  let observed := failedGeneration.getD server.generation
  let replaced := server.reconnect observed
  if replaced.generation ≤ observed ∨ replaced.state ≠ .ready ∨
      SupervisedServer.healthy replaced = false then
    { replaced with state := .failed }
  else replaced

end ManagedServer

structure McpManager where
  read : ManagedServer
  action : ManagedServer

namespace McpManager

def started : McpManager where
  read := .started
  action := .started

/-- The physical sends of each call, in order. -/
def sends (manager : McpManager) : List GatewayOperation → List Nat
  | [] => []
  | .callRead outcome :: later =>
      let (sent, read) := manager.read.call outcome
      sent :: sends { manager with read } later
  | .callAction outcome :: later =>
      let (sent, action) := manager.action.call outcome
      sent :: sends { manager with action } later
  | .rehandshakeRead failedGeneration :: later =>
      sends { manager with read := manager.read.rehandshake failedGeneration } later

end McpManager

/-- No call comes to a server that a call has failed on. For the reads, a rehandshake in between
makes up for it when the generation that it names has been reached; one that names a later
generation is itself a failure. The generations count the sessions that were opened. -/
def CallsRestored (generation : Nat) (readFailed actionFailed : Bool) :
    List GatewayOperation → Prop
  | [] => True
  | .callRead outcome :: later =>
      readFailed = false ∧
        CallsRestored generation (outcome ≠ .result) actionFailed later
  | .callAction outcome :: later =>
      actionFailed = false ∧
        CallsRestored generation readFailed (outcome ≠ .result) later
  | .rehandshakeRead failedGeneration :: later =>
      let observed := failedGeneration.getD generation
      CallsRestored (if generation = observed ∨ readFailed then generation + 1 else generation)
        (generation < observed) actionFailed later

namespace ManagedServer

/-- The session is open, and the server is ready unless a call has failed. -/
structure Open (server : ManagedServer) (failed : Bool) : Prop where
  session : server.session.isSome
  runner : server.runner = .running
  state : server.state = .ready ↔ failed = false

variable {server : ManagedServer} {failed : Bool}

theorem Open.started : started.Open false where
  session := rfl
  runner := rfl
  state := by simp [ManagedServer.started]

theorem Open.transition (opened : server.Open failed) {state : SupervisorState}
    (not_ready : state ≠ .ready) : { server with state }.Open true where
  session := opened.session
  runner := opened.runner
  state := by simp [not_ready]

theorem Open.call (opened : server.Open failed) (outcome : SendOutcome) :
    ((server.call outcome).1 = 1 ↔ failed = false) ∧
      (failed = false → (server.call outcome).2.Open (outcome ≠ .result) ∧
        (server.call outcome).2.generation = server.generation) := by
  have session : server.session ≠ none := Option.isSome_iff_ne_none.mp opened.session
  have runner : server.runner ≠ .done := by
    rw [opened.runner]
    decide
  cases failed with
  | true =>
      have not_ready : server.state ≠ .ready := fun ready =>
        absurd (opened.state.mp ready) (by decide)
      rw [ManagedServer.call, if_pos (.inr (.inr not_ready))]
      simp
  | false =>
      have ready : server.state = .ready := opened.state.mpr rfl
      have usable : ¬(server.session = none ∨ server.runner = .done ∨ server.state ≠ .ready) := by
        simp [session, runner, ready]
      rw [ManagedServer.call, if_neg usable]
      cases outcome with
      | result =>
          simp only [if_pos, true_and, forall_const, and_true]
          exact opened
      | timeout =>
          simp only [reduceCtorEq, if_false, true_and, forall_const, and_true]
          exact opened.transition (by decide)
      | protocolError =>
          simp only [reduceCtorEq, if_false, true_and, forall_const, and_true]
          exact opened.transition (by decide)

theorem Open.replaceSession : server.replaceSession.Open false where
  session := rfl
  runner := rfl
  state := by simp [ManagedServer.replaceSession]

theorem Open.healthy (opened : server.Open failed) : SupervisedServer.healthy server = true := by
  simp [SupervisedServer.healthy, opened.session, opened.runner]

theorem Open.reconnect (opened : server.Open failed) (observed : Nat) :
    (server.reconnect observed).Open false ∧
      (server.reconnect observed).generation =
        if server.generation = observed ∨ failed then server.generation + 1
        else server.generation := by
  rw [ManagedServer.reconnect]
  by_cases replaced : server.generation = observed ∨ failed
  · have stale : ¬(server.generation ≠ observed ∧ server.state = .ready) := by
      simp only [opened.state, not_and, ne_eq]
      grind
    rw [if_neg stale, if_pos replaced]
    exact ⟨.replaceSession, rfl⟩
  · rw [not_or, Bool.not_eq_true] at replaced
    obtain ⟨other, usable⟩ := replaced
    rw [if_pos ⟨other, opened.state.mpr usable⟩, if_neg (by simp [other, usable])]
    rw [usable] at opened
    exact ⟨opened, rfl⟩

theorem Open.rehandshake (opened : server.Open failed) (failedGeneration : Option Nat) :
    (server.rehandshake failedGeneration).Open
        (server.generation < failedGeneration.getD server.generation) ∧
      (server.rehandshake failedGeneration).generation =
        if server.generation = failedGeneration.getD server.generation ∨ failed then
          server.generation + 1
        else server.generation := by
  generalize named : failedGeneration.getD server.generation = observed
  obtain ⟨replaced, generation⟩ := opened.reconnect observed
  have ready := replaced.state.mpr rfl
  have healthy := replaced.healthy
  have reached : (server.reconnect observed).generation ≤ observed ↔
      server.generation < observed := by
    rw [generation]
    split <;> omega
  rw [ManagedServer.rehandshake, named]
  by_cases later : server.generation < observed
  · rw [if_pos (.inl (reached.mpr later))]
    simp only [later, decide_true]
    exact ⟨replaced.transition (by decide), generation⟩
  · rw [if_neg (by simp [reached, later, ready, healthy])]
    simp only [later, decide_false]
    exact ⟨replaced, generation⟩

end ManagedServer

namespace McpManager

theorem sends_iff (operations : List GatewayOperation) :
    ∀ {manager : McpManager} {readFailed actionFailed : Bool},
      manager.read.Open readFailed → manager.action.Open actionFailed →
        ((∀ sent ∈ manager.sends operations, sent = 1) ↔
          CallsRestored manager.read.generation readFailed actionFailed operations) := by
  induction operations with
  | nil => simp [sends, CallsRestored]
  | cons operation later induction =>
      intro manager readFailed actionFailed read action
      cases operation with
      | callRead outcome =>
          obtain ⟨once, next⟩ := read.call outcome
          simp only [sends, CallsRestored, List.forall_mem_cons, once]
          apply and_congr_right
          intro usable
          obtain ⟨opened, same⟩ := next usable
          rw [← same]
          exact induction opened action
      | callAction outcome =>
          obtain ⟨once, next⟩ := action.call outcome
          simp only [sends, CallsRestored, List.forall_mem_cons, once]
          apply and_congr_right
          intro usable
          exact induction read (next usable).1
      | rehandshakeRead failedGeneration =>
          obtain ⟨opened, generation⟩ := read.rehandshake failedGeneration
          simp only [sends, CallsRestored]
          rw [← generation]
          exact induction opened action

/-- Every call is sent exactly once if and only if no call comes after a failure that nothing
has made up for. -/
theorem everyCall_sent_iff (operations : List GatewayOperation) :
    (∀ sent ∈ started.sends operations, sent = 1) ↔ CallsRestored 1 false false operations :=
  sends_iff operations .started .started

/-- The action after one that timed out is refused. -/
theorem action_refused_after_timeout :
    ¬∀ operations, ∀ sent ∈ started.sends operations, sent = 1 := by
  intro served
  have refused : 0 ∈ started.sends [.callAction .timeout, .callAction .result] := by decide
  exact absurd (served _ 0 refused) (by decide)

end McpManager

end SupportGuard
