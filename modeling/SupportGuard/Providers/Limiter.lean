import SupportGuard.Foundation.SortedSet
import Mathlib.Data.String.Basic

/-! # The provider limiter

`providers/limiter.py`: callers of a provider share a number of permits and a number of
calls per window. The limits live in Redis, where each script runs as one step; time is the
server's, in whole milliseconds, and scores are exact. -/

namespace SupportGuard

open Foundation

/-! ## The keys -/

/-- The counter that numbers the waiters. -/
structure SequenceKey where
  value : Nat := 0
  expireAt : Option Int := none

namespace SequenceKey

/-- What is seen of the counter after its deadline. -/
def visible (now : Int) (sequence : SequenceKey) : SequenceKey :=
  if sequence.expireAt.any (· < now) then {} else sequence

def incr (sequence : SequenceKey) : SequenceKey :=
  { sequence with value := sequence.value + 1 }

/-- A key that is missing gets no deadline. -/
def pexpire (now : Int) (ttl : Nat) (sequence : SequenceKey) : SequenceKey :=
  if sequence.value = 0 then sequence else { sequence with expireAt := some (now + ttl) }

@[simp] theorem pexpire_value (now : Int) (ttl : Nat) (sequence : SequenceKey) :
    (sequence.pexpire now ttl).value = sequence.value := by
  unfold pexpire
  split <;> rfl

theorem visible_eq {now : Int} {sequence : SequenceKey}
    (alive : ∀ deadline, sequence.expireAt = some deadline → now ≤ deadline) :
    sequence.visible now = sequence := by
  unfold visible
  rw [if_neg]
  intro expired
  rw [Option.any_eq_true] at expired
  rcases expired with ⟨deadline, found, passed⟩
  have later := alive deadline found
  simp only [decide_eq_true_eq] at passed
  omega

end SequenceKey

/-- `rpm_window` is a minute, and a waiter is kept for the timeout of its caller and a
second. -/
structure LimiterConfig where
  maxInflight : Nat := 2
  rpmCapacity : Nat := 60
  rpmWindow : Nat := 60000
  leaseMs : Nat := 40000
  waiterTtlMs : Nat := 6000

structure LimiterStore where
  inflight : SortedSet String := {}
  rpm : SortedSet String := {}
  waiters : SortedSet String := {}
  sequence : SequenceKey := {}

inductive AcquireReply
  | granted
  | inflightFull
  | rpmFull
  | notFirst
deriving DecidableEq, Repr

/-! ## The scripts -/

namespace LimiterStore

/-- The keys once what has expired is gone. -/
def swept (config : LimiterConfig) (now : Int) (store : LimiterStore) : LimiterStore where
  inflight := (store.inflight.visible now).zremrangebyscore now
  rpm := (store.rpm.visible now).zremrangebyscore (now - config.rpmWindow)
  waiters := (store.waiters.visible now).zremrangebyscore (now - config.waiterTtlMs)
  sequence := store.sequence.visible now

/-- A caller that is not waiting joins the waiters. -/
def enqueued (owner : String) (now : Int) (store : LimiterStore) : LimiterStore :=
  match store.waiters.zscore owner with
  | some _ => store
  | none =>
      let sequence := store.sequence.incr
      { store with
        waiters := store.waiters.zadd (now + sequence.value / 1000000) owner
        sequence }

def granted (config : LimiterConfig) (owner : String) (now : Int) (store : LimiterStore) :
    LimiterStore where
  inflight := (store.inflight.zadd (now + config.leaseMs) owner).pexpire now
    (config.leaseMs + 1000)
  rpm := (store.rpm.zadd now owner).pexpire now (config.rpmWindow + 1000)
  waiters := (store.waiters.zrem owner).pexpire now (config.waiterTtlMs + 1000)
  sequence := store.sequence.pexpire now (config.waiterTtlMs + 1000)

end LimiterStore

/-- `_ACQUIRE`. -/
def acquireScript (config : LimiterConfig) (owner : String) (now : Int) (store : LimiterStore) :
    AcquireReply × LimiterStore :=
  let store := (store.swept config now).enqueued owner now
  if store.waiters.first ≠ some owner then (.notFirst, store)
  else if config.maxInflight ≤ store.inflight.zcard then (.inflightFull, store)
  else if config.rpmCapacity ≤ store.rpm.zcard then (.rpmFull, store)
  else (.granted, store.granted config owner now)

/-- `_RELEASE`. -/
def releaseScript (owner : String) (now : Int) (store : LimiterStore) : LimiterStore :=
  { store with inflight := (store.inflight.visible now).zrem owner }

/-- `_CANCEL_WAITER`. -/
def cancelWaiterScript (owner : String) (now : Int) (store : LimiterStore) : LimiterStore :=
  { store with waiters := (store.waiters.visible now).zrem owner }

/-! ## Callers -/

structure ProviderPermit where
  owner : String
  acquiredAtMs : Int
  released : Bool := false
deriving DecidableEq, Repr

/-- The store, the clock, the callers in the order they came in, those that poll no more, and
the permits in the order they were given. -/
structure LimiterSystem where
  store : LimiterStore := {}
  now : Int := 0
  arrivals : List String := []
  ended : List String := []
  permits : List ProviderPermit := []

/-- What can happen next. A caller has an owner of its own and polls until it has its permit,
gives up or crashes; who has crashed does nothing more. -/
inductive LimiterEvent
  | tick (elapsed : Nat)
  | poll (owner : String)
  | release (owner : String)
  | cancel (owner : String)
  | crash (owner : String)
deriving DecidableEq, Repr

namespace LimiterSystem

/-- A caller that has come in and polls on. -/
def Waiting (system : LimiterSystem) (owner : String) : Prop :=
  owner ∈ system.arrivals ∧ owner ∉ system.ended

def perform (config : LimiterConfig) (system : LimiterSystem) :
    LimiterEvent → Option LimiterSystem
  | .tick elapsed => some { system with now := system.now + elapsed }
  | .poll owner =>
      if owner ∈ system.ended then none
      else
        let (reply, store) := acquireScript config owner system.now system.store
        let arrivals := if owner ∈ system.arrivals then system.arrivals
          else system.arrivals ++ [owner]
        if reply = .granted then
          some { system with
            store
            arrivals
            ended := owner :: system.ended
            permits := system.permits ++ [{ owner, acquiredAtMs := system.now }] }
        else some { system with store, arrivals }
  | .release owner =>
      if system.permits.any fun permit => permit.owner = owner then
        some { system with
          store := releaseScript owner system.now system.store
          permits := system.permits.map fun permit =>
            if permit.owner = owner then { permit with released := true } else permit }
      else none
  | .cancel owner =>
      some { system with
        store := cancelWaiterScript owner system.now system.store
        ended := owner :: system.ended }
  | .crash owner => some { system with ended := owner :: system.ended }

def Step (config : LimiterConfig) (before after : LimiterSystem) : Prop :=
  ∃ event, before.perform config event = some after

/-- Nobody has called. -/
def idle (now : Int) : LimiterSystem :=
  { now }

/-- The events of a list, one after the other. -/
def run (config : LimiterConfig) (system : LimiterSystem) :
    List LimiterEvent → Option LimiterSystem
  | [] => some system
  | event :: later => (system.perform config event).bind fun next => run config next later

theorem reached_of_run {config : LimiterConfig} :
    ∀ {events : List LimiterEvent} {before after : LimiterSystem},
      before.run config events = some after → Relation.ReflTransGen (Step config) before after
  | [], _, _, ran => by
      cases ran
      exact .refl
  | event :: later, before, after, ran => by
      rcases Option.bind_eq_some_iff.mp ran with ⟨next, performed, ran⟩
      exact .head ⟨event, performed⟩ (reached_of_run ran)

end LimiterSystem

end SupportGuard
