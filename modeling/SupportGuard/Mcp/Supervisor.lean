import SupportGuard.Foundation.Run
import Mathlib.Logic.Function.Basic

/-! # The MCP supervisor

`ManagedServer` and the calls that share it, of `mcp/runtime.py`. A call of the gateway sends
its request at most once, and after a failure it may ask for a new session, naming the
generation that its failure recorded. One event is what a coroutine does between two awaits. -/

namespace SupportGuard

open Foundation

inductive SupervisorState
  | stopped
  | starting
  | handshaking
  | ready
  | degraded
  | reconnecting
  | failed
  | draining
  | closed
deriving DecidableEq

inductive RunnerTask
  | absent
  | running
  | done
deriving DecidableEq

/-- The permits of `_call_gate` of the read server. -/
def readCallGate : Nat := 3

/-- A session goes by the generation that it has once it is ready. The tasks in `cancelled`
have been cancelled by a stop. -/
structure ManagedServer where
  state : SupervisorState
  generation : Nat
  session : Option Nat
  runner : RunnerTask
  reconnects : Nat := 0
  pendingCalls : List Nat := []
  cancelled : List Nat := []
  gateWaiters : List Nat := []
  reconnectLock : Option Nat := none

/-- A stop makes way for a new session, or cleans up after a start that failed. -/
inductive StopPurpose
  | replace
  | abort
deriving DecidableEq

/-- Where a call of `call_read`, with the `rehandshake_read` that may follow, stands. A failure
is late when a newer session than that of the call has been ready. -/
inductive CallPhase
  | fresh
  | waiting
  | sent (session : Nat)
  | failed (generation : Nat) (late : Bool)
  | draining (observed : Nat) (purpose : StopPurpose)
  | closing (observed : Nat) (purpose : StopPurpose)
  | starting (observed : Nat)
  | handshaking (observed : Nat)
  | ended
deriving DecidableEq

inductive SupervisorEvent
  | start (call : Nat)
  | enter
  | result (call : Nat)
  | failure (call : Nat)
  | cancellation (call : Nat)
  | giveUp (call : Nat)
  | reconnect (call : Nat)
  | drained (call : Nat)
  | closed (call : Nat)
  | stuck (call : Nat)
  | opened (call : Nat)
  | unidentified (call : Nat)
  | verified (call : Nat)
  | startFailed (call : Nat)
  | runnerEnded
deriving DecidableEq

def SupervisorEvent.isDrained : SupervisorEvent → Bool
  | .drained _ => true
  | _ => false

structure SupervisedServer where
  server : ManagedServer
  calls : Nat → CallPhase

namespace SupervisedServer

def setCall (system : SupervisedServer) (call : Nat) (phase : CallPhase) : SupervisedServer :=
  { system with calls := Function.update system.calls call phase }

def setServer (system : SupervisedServer) (server : ManagedServer) : SupervisedServer :=
  { system with server }

/-- `health().session`; the schema has been verified whenever the server is ready. -/
def healthy (server : ManagedServer) : Bool :=
  server.session.isSome && server.runner = .running

/-! ## Calls -/

/-- The handler of a failed call: the record takes the generation of now. -/
def failCall (system : SupervisedServer) (call : Nat) (late : Bool) : SupervisedServer :=
  (system.setServer { system.server with state := .degraded }).setCall call
    (.failed system.server.generation late)

/-- Inside the gate the call takes the session of now; without one it fails. -/
def send (system : SupervisedServer) (call : Nat) : SupervisedServer :=
  match system.server.session with
  | none => system.failCall call false
  | some session =>
      (system.setServer { system.server with
        pendingCalls := system.server.pendingCalls ++ [call] }).setCall call (.sent session)

/-- The task is discarded, which frees its permit. -/
def discard (system : SupervisedServer) (call : Nat) : SupervisedServer :=
  system.setServer { system.server with
    pendingCalls := system.server.pendingCalls.filter (· ≠ call)
    cancelled := system.server.cancelled.filter (· ≠ call) }

def startCall (system : SupervisedServer) (call : Nat) : SupervisedServer :=
  let server := system.server
  if server.session = none ∨ server.runner = .done ∨ server.state ≠ .ready then
    system.failCall call false
  else if server.pendingCalls.length < readCallGate ∧ server.gateWaiters = [] then
    system.send call
  else
    (system.setServer { server with gateWaiters := server.gateWaiters ++ [call] }).setCall call
      .waiting

/-! ## Replacing the session -/

/-- The end of `rehandshake`, which gives the lock back and looks at the health. -/
def finishRehandshake (system : SupervisedServer) (call observed : Nat) : SupervisedServer :=
  let server := { system.server with reconnectLock := none }
  let unhealthy :=
    server.generation ≤ observed ∨ server.state ≠ .ready ∨ healthy server = false
  (system.setServer { server with state := if unhealthy then .failed else server.state }).setCall
    call .ended

/-- The end of `rehandshake` when the reconnect has raised. -/
def failRehandshake (system : SupervisedServer) (call : Nat) : SupervisedServer :=
  (system.setServer { system.server with state := .failed, reconnectLock := none }).setCall call
    .ended

def dropSession (system : SupervisedServer) (call observed : Nat) (purpose : StopPurpose) :
    SupervisedServer :=
  (system.setServer { system.server with session := none, runner := .absent }).setCall call
    (.closing observed purpose)

/-- `_stop_unlocked` up to its first await: the pending tasks are cancelled, and it waits for
them where there are any. -/
def beginStop (system : SupervisedServer) (call observed : Nat) (purpose : StopPurpose) :
    SupervisedServer :=
  let system := system.setServer { system.server with
    state := .draining, cancelled := system.server.pendingCalls }
  if system.server.pendingCalls = [] then system.dropSession call observed purpose
  else system.setCall call (.draining observed purpose)

/-- `reconnect` with the lock. -/
def reconnect (system : SupervisedServer) (call observed : Nat) : SupervisedServer :=
  let server := system.server
  if server.generation ≠ observed ∧ server.state = .ready then
    system.finishRehandshake call observed
  else
    (system.setServer { server with
      state := .reconnecting, reconnectLock := some call }).beginStop call observed .replace

def openSession (system : SupervisedServer) : SupervisedServer :=
  system.setServer { system.server with session := some (system.server.generation + 1) }

/-! ## Events -/

def perform (system : SupervisedServer) : SupervisorEvent → Option SupervisedServer
  | .start call =>
      if system.calls call = .fresh then some (system.startCall call) else none
  | .enter =>
      match system.server.gateWaiters with
      | call :: later =>
          if system.server.pendingCalls.length < readCallGate then
            some ((system.setServer { system.server with gateWaiters := later }).send call)
          else none
      | [] => none
  | .result call =>
      match system.calls call with
      | .sent _ => some ((system.discard call).setCall call .ended)
      | _ => none
  | .failure call =>
      match system.calls call with
      | .sent session =>
          some ((system.discard call).failCall call (session < system.server.generation))
      | _ => none
  | .cancellation call =>
      match system.calls call with
      | .sent _ =>
          if call ∈ system.server.cancelled then
            some ((system.discard call).setCall call .ended)
          else none
      | _ => none
  | .giveUp call =>
      match system.calls call with
      | .failed _ _ => some (system.setCall call .ended)
      | _ => none
  | .reconnect call =>
      match system.calls call with
      | .failed generation _ =>
          if system.server.reconnectLock = none then some (system.reconnect call generation)
          else none
      | _ => none
  -- The tasks have ended, or the five seconds for them are over.
  | .drained call =>
      match system.calls call with
      | .draining observed purpose => some (system.dropSession call observed purpose)
      | _ => none
  -- The old process is gone; `start` begins in the same turn.
  | .closed call =>
      match system.calls call with
      | .closing observed .replace =>
          some ((system.setServer { system.server with
            state := .starting
            runner := .running
            reconnects := system.server.reconnects + 1 }).setCall call (.starting observed))
      | .closing _ .abort => some (system.failRehandshake call)
      | _ => none
  -- The old process did not terminate.
  | .stuck call =>
      match system.calls call with
      | .closing _ _ => some (system.failRehandshake call)
      | _ => none
  | .opened call =>
      match system.calls call with
      | .starting observed =>
          let system := system.openSession
          some ((system.setServer { system.server with state := .handshaking }).setCall call
            (.handshaking observed))
      | _ => none
  -- The session is open, but the child has no identity of its own.
  | .unidentified call =>
      match system.calls call with
      | .starting observed => some (system.openSession.beginStop call observed .abort)
      | _ => none
  | .verified call =>
      match system.calls call with
      | .handshaking observed =>
          some ((system.setServer { system.server with
            generation := system.server.generation + 1
            state := .ready }).finishRehandshake call observed)
      | _ => none
  | .startFailed call =>
      match system.calls call with
      | .starting observed => some (system.beginStop call observed .abort)
      | .handshaking observed => some (system.beginStop call observed .abort)
      | _ => none
  | .runnerEnded =>
      if system.server.runner = .running then
        some (system.setServer { system.server with runner := .done })
      else none

/-- The server after its first start, before any call. -/
def booted : SupervisedServer where
  server := { state := .ready, generation := 1, session := some 1, runner := .running }
  calls := fun _ => .fresh

end SupervisedServer

end SupportGuard
