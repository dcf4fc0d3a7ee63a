import SupportGuard.Foundation.TokenBucket
import SupportGuard.Services.RuntimeJobs

/-! # Admission of commands

`services/admission.py`: a command takes a token of its tenant's bucket and one of its
principal's. The buckets are hashes in Redis that a script updates; numbers are exact
here, and the script's clock counts milliseconds. -/

namespace SupportGuard

open Foundation Program

/-! ## The script -/

/-- The hash of a bucket. -/
structure RateBucket where
  tokens : Rat
  updatedMs : Int
deriving DecidableEq

def refillPerMs (capacity : Nat) : Rat :=
  capacity / 60000

/-- `BUCKET_SCRIPT` on the values it finds at its key. -/
def bucketScript (capacity : Nat) (nowMs : Int) (stored : Option RateBucket) :
    Bool × RateBucket :=
  let tokens := (stored.map RateBucket.tokens).getD capacity
  let updatedMs := (stored.map RateBucket.updatedMs).getD nowMs
  let tokens := min (capacity : Rat)
    (tokens + (max 0 (nowMs - updatedMs) : Int) * refillPerMs capacity)
  if 1 ≤ tokens then (true, { tokens := tokens - 1, updatedMs := nowMs })
  else (false, { tokens, updatedMs := nowMs })

/-- A key is gone once its time to live has passed. -/
def unexpired (nowMs : Int) (stored : Option RateBucket) : Option RateBucket :=
  stored.filter fun bucket => nowMs ≤ bucket.updatedMs + 120000

/-- The script in Redis. -/
def evalBucket (capacity : Nat) (nowMs : Int) (stored : Option RateBucket) :
    Bool × RateBucket :=
  bucketScript capacity nowMs (unexpired nowMs stored)

/-- Calls of the script on one key, at the given times: what each returned, and the hash
they leave. -/
def evalBuckets (capacity : Nat) :
    List Int → Option RateBucket → List (Int × Bool) × Option RateBucket
  | [], stored => ([], stored)
  | nowMs :: rest, stored =>
      let (allowed, bucket) := evalBucket capacity nowMs stored
      let (replies, final) := evalBuckets capacity rest (some bucket)
      ((nowMs, allowed) :: replies, final)

/-! ## One call -/

section Script

variable {capacity : Nat} {nowMs : Int} {stored : Option RateBucket}

/-- The tokens that a call finds. -/
def tokensAt (capacity : Nat) (nowMs : Int) (stored : Option RateBucket) : Rat :=
  TokenBucket.refill capacity (refillPerMs capacity)
    ((stored.map RateBucket.tokens).getD capacity)
    (nowMs - (stored.map RateBucket.updatedMs).getD nowMs : Int)

theorem bucketScript_eq (capacity : Nat) (nowMs : Int) (stored : Option RateBucket) :
    bucketScript capacity nowMs stored =
      (TokenBucket.grants (tokensAt capacity nowMs stored),
        { tokens := TokenBucket.take (tokensAt capacity nowMs stored), updatedMs := nowMs }) := by
  have found : min (capacity : Rat) ((stored.map RateBucket.tokens).getD (capacity : Rat) +
      (max 0 (nowMs - (stored.map RateBucket.updatedMs).getD nowMs) : Int) *
        refillPerMs capacity) = tokensAt capacity nowMs stored := by
    rw [tokensAt, TokenBucket.refill, Int.cast_max, Int.cast_zero]
  simp only [bucketScript, found, TokenBucket.take, TokenBucket.grants, decide_eq_true_eq]
  split
  · simp_all
  · simp_all

/-- A bucket holds between nothing and its capacity. -/
def RateBucket.Within (capacity : Nat) (bucket : RateBucket) : Prop :=
  0 ≤ bucket.tokens ∧ bucket.tokens ≤ capacity

theorem refillPerMs_nonneg (capacity : Nat) : 0 ≤ refillPerMs capacity := by
  unfold refillPerMs
  positivity

theorem tokensAt_nonneg (within : ∀ bucket ∈ stored, bucket.Within capacity) :
    0 ≤ tokensAt capacity nowMs stored := by
  apply TokenBucket.refill_nonneg (Nat.cast_nonneg _) (refillPerMs_nonneg capacity)
  cases stored with
  | none => exact Nat.cast_nonneg _
  | some bucket => exact (within bucket rfl).1

theorem bucketScript_within (within : ∀ bucket ∈ stored, bucket.Within capacity) :
    (bucketScript capacity nowMs stored).2.Within capacity := by
  rw [bucketScript_eq]
  exact ⟨TokenBucket.take_nonneg (tokensAt_nonneg within),
    TokenBucket.take_le.trans TokenBucket.refill_le_capacity⟩

/-- A key that has expired would have been full. -/
theorem evalBucket_eq (within : ∀ bucket ∈ stored, bucket.Within capacity) :
    evalBucket capacity nowMs stored = bucketScript capacity nowMs stored := by
  cases stored with
  | none => rfl
  | some bucket =>
      by_cases alive : nowMs ≤ bucket.updatedMs + 120000
      · have kept : unexpired nowMs (some bucket) = some bucket := by
          simp [unexpired, alive]
        rw [evalBucket, kept]
      · have gone : unexpired nowMs (some bucket) = none := by
          simpa [unexpired] using alive
        have aged : (120000 : Rat) ≤ (nowMs - bucket.updatedMs : Int) := by
          exact_mod_cast (by omega : (120000 : Int) ≤ nowMs - bucket.updatedMs)
        have full : tokensAt capacity nowMs (some bucket) = capacity := by
          apply TokenBucket.refill_eq_capacity
          have holds := (within bucket rfl).1
          have flows := refillPerMs_nonneg capacity
          simp only [Option.map_some, Option.getD_some]
          rw [max_eq_right (by linarith)]
          have twice : (120000 : Rat) * refillPerMs capacity = 2 * capacity := by
            unfold refillPerMs
            ring
          have grown := mul_le_mul_of_nonneg_right aged flows
          have filled : (0 : Rat) ≤ capacity := Nat.cast_nonneg _
          linarith
        have fresh : tokensAt capacity nowMs none = capacity := by
          apply TokenBucket.refill_eq_capacity
          simp
        rw [evalBucket, gone, bucketScript_eq, bucketScript_eq, full, fresh]

end Script

/-! ## Windows -/

/-- The calls that were allowed up to an instant. -/
def allowedUntil (last : Rat) (replies : List (Int × Bool)) : Nat :=
  (replies.filter fun reply => reply.2 && decide ((reply.1 : Rat) ≤ last)).length

/-- The calls that were allowed in a window. -/
def allowedWithin (first last : Rat) (replies : List (Int × Bool)) : Nat :=
  (replies.filter fun reply =>
    reply.2 && decide (first ≤ (reply.1 : Rat) ∧ (reply.1 : Rat) ≤ last)).length

section Windows

variable {capacity : Nat} {times : List Int}

theorem evalBuckets_cons (nowMs : Int) (stored : Option RateBucket)
    (within : ∀ bucket ∈ stored, bucket.Within capacity) :
    evalBuckets capacity (nowMs :: times) stored =
      ((nowMs, TokenBucket.grants (tokensAt capacity nowMs stored)) ::
          (evalBuckets capacity times (some
            { tokens := TokenBucket.take (tokensAt capacity nowMs stored)
              updatedMs := nowMs })).1,
        (evalBuckets capacity times (some
          { tokens := TokenBucket.take (tokensAt capacity nowMs stored)
            updatedMs := nowMs })).2) := by
  rw [evalBuckets, evalBucket_eq within, bucketScript_eq]

theorem takeAt_within (nowMs : Int) {stored : Option RateBucket}
    (within : ∀ bucket ∈ stored, bucket.Within capacity) :
    ∀ bucket ∈ some (RateBucket.mk (TokenBucket.take (tokensAt capacity nowMs stored)) nowMs),
      bucket.Within capacity := by
  intro bucket same
  cases same
  have kept : (bucketScript capacity nowMs stored).2.Within capacity := bucketScript_within within
  rw [bucketScript_eq] at kept
  exact kept

/-- Every reply is to a call of the list. -/
theorem replies_times (stored : Option RateBucket) :
    (evalBuckets capacity times stored).1.map Prod.fst = times := by
  induction times generalizing stored with
  | nil => rfl
  | cons nowMs rest induction => simp [evalBuckets, induction]

theorem evalBuckets_within (stored : Option RateBucket)
    (within : ∀ bucket ∈ stored, bucket.Within capacity) :
    ∀ bucket ∈ (evalBuckets capacity times stored).2, bucket.Within capacity := by
  induction times generalizing stored with
  | nil => exact within
  | cons nowMs rest induction =>
      rw [evalBuckets_cons nowMs stored within]
      exact induction _ (takeAt_within nowMs within)

theorem allowedUntil_cons (last : Rat) (nowMs : Int) (granted : Bool)
    (replies : List (Int × Bool)) (inside : (nowMs : Rat) ≤ last) :
    allowedUntil last ((nowMs, granted) :: replies) =
      (if granted then 1 else 0) + allowedUntil last replies := by
  cases granted with
  | false => simp [allowedUntil]
  | true =>
      simp [allowedUntil, inside]
      omega

theorem first_le {nowMs other : Int} (ordered : (nowMs :: times).Pairwise (· ≤ ·))
    (member : other ∈ nowMs :: times) : (nowMs : Rat) ≤ other := by
  have behind : nowMs ≤ other := by
    rcases List.mem_cons.mp member with same | later
    · exact same.symm.le
    · exact (List.pairwise_cons.mp ordered).1 other later
  exact_mod_cast behind

/-- Calls that begin after an instant do not count for it. -/
theorem allowedUntil_of_late {last : Rat} {nowMs : Int} {replies : List (Int × Bool)}
    (ordered : (nowMs :: times).Pairwise (· ≤ ·)) (made : replies.map Prod.fst = nowMs :: times)
    (late : last < nowMs) : allowedUntil last replies = 0 := by
  rw [allowedUntil, List.length_eq_zero_iff, List.filter_eq_nil_iff]
  intro reply member allowed
  have after := first_le ordered (made ▸ List.mem_map_of_mem member)
  simp only [Bool.and_eq_true, decide_eq_true_eq] at allowed
  linarith [allowed.2]

/-- What is allowed until some instant is paid for by the tokens there are and those that
come until then. -/
theorem allowedUntil_le {bucket : RateBucket} {last : Rat} (within : bucket.Within capacity)
    (ordered : (bucket.updatedMs :: times).Pairwise (· ≤ ·))
    (started : (bucket.updatedMs : Rat) ≤ last) :
    (allowedUntil last (evalBuckets capacity times (some bucket)).1 : Rat) ≤
      bucket.tokens + (last - bucket.updatedMs) * refillPerMs capacity := by
  have flows := refillPerMs_nonneg capacity
  induction times generalizing bucket with
  | nil =>
      have gained : 0 ≤ (last - bucket.updatedMs) * refillPerMs capacity :=
        mul_nonneg (by linarith) flows
      have holds := within.1
      simp only [evalBuckets, allowedUntil, List.filter_nil, List.length_nil, Nat.cast_zero]
      linarith
  | cons nowMs rest induction =>
      have stored : ∀ other ∈ some bucket, other.Within capacity := by
        intro other same
        cases same
        exact within
      rw [List.pairwise_cons] at ordered
      have forward : bucket.updatedMs ≤ nowMs := ordered.1 nowMs (by simp)
      have elapsed : (0 : Rat) ≤ (nowMs - bucket.updatedMs : Int) := by
        exact_mod_cast (by omega : (0 : Int) ≤ nowMs - bucket.updatedMs)
      have found : tokensAt capacity nowMs (some bucket) ≤
          bucket.tokens + (nowMs - bucket.updatedMs : Int) * refillPerMs capacity :=
        TokenBucket.refill_le_add elapsed
      rw [evalBuckets_cons nowMs _ stored]
      by_cases inside : (nowMs : Rat) ≤ last
      · -- The token of this call is taken from what the refill has left.
        have later := induction (takeAt_within nowMs stored _ rfl) ordered.2 inside
        have spent := TokenBucket.granted_add_take (tokensAt capacity nowMs (some bucket))
        rw [allowedUntil_cons _ _ _ _ inside, Nat.cast_add, Nat.cast_ite, Nat.cast_one,
          Nat.cast_zero]
        rw [Int.cast_sub] at found
        linarith
      · have late : allowedUntil last
            ((nowMs, TokenBucket.grants (tokensAt capacity nowMs (some bucket))) ::
              (evalBuckets capacity rest (some
                { tokens := TokenBucket.take (tokensAt capacity nowMs (some bucket))
                  updatedMs := nowMs })).1) = 0 := by
          apply allowedUntil_of_late ordered.2 _ (lt_of_not_ge inside)
          rw [List.map_cons, replies_times]
        have gained : 0 ≤ (last - bucket.updatedMs) * refillPerMs capacity :=
          mul_nonneg (by linarith) flows
        have holds := within.1
        rw [late, Nat.cast_zero]
        linarith

theorem allowedWithin_cons_before {first last : Rat} {nowMs : Int} (granted : Bool)
    (replies : List (Int × Bool)) (before : (nowMs : Rat) < first) :
    allowedWithin first last ((nowMs, granted) :: replies) = allowedWithin first last replies := by
  have outside : ¬first ≤ (nowMs : Rat) := not_le.mpr before
  simp [allowedWithin, outside]

/-- From the start of a window on, only its end matters. -/
theorem allowedWithin_eq_allowedUntil {first last : Rat} {replies : List (Int × Bool)}
    (after : ∀ nowMs ∈ replies.map Prod.fst, first ≤ (nowMs : Rat)) :
    allowedWithin first last replies = allowedUntil last replies := by
  rw [allowedWithin, allowedUntil]
  congr 1
  apply List.filter_congr
  intro reply member
  have begun := after reply.1 (List.mem_map_of_mem member)
  simp [begun]

/-- A window begins with at most a full bucket. -/
theorem allowedWithin_le {stored : Option RateBucket} {first last : Rat}
    (within : ∀ bucket ∈ stored, bucket.Within capacity) (ordered : times.Pairwise (· ≤ ·))
    (open_ : first ≤ last) :
    (allowedWithin first last (evalBuckets capacity times stored).1 : Rat) ≤
      capacity + (last - first) * refillPerMs capacity := by
  have flows := refillPerMs_nonneg capacity
  have filled : (0 : Rat) ≤ capacity := Nat.cast_nonneg _
  have gained : 0 ≤ (last - first) * refillPerMs capacity := mul_nonneg (by linarith) flows
  induction times generalizing stored with
  | nil =>
      simp only [evalBuckets, allowedWithin, List.filter_nil, List.length_nil, Nat.cast_zero]
      linarith
  | cons nowMs rest induction =>
      rw [evalBuckets_cons nowMs _ within]
      by_cases before : (nowMs : Rat) < first
      · rw [allowedWithin_cons_before _ _ before]
        exact induction (takeAt_within nowMs within) (List.pairwise_cons.mp ordered).2
      · have begun : first ≤ (nowMs : Rat) := not_lt.mp before
        rw [allowedWithin_eq_allowedUntil]
        · by_cases inside : (nowMs : Rat) ≤ last
          · have later := allowedUntil_le (takeAt_within nowMs within _ rfl) ordered inside
            have spent := TokenBucket.granted_add_take (tokensAt capacity nowMs stored)
            have full : tokensAt capacity nowMs stored ≤ capacity := TokenBucket.refill_le_capacity
            have shorter : (last - nowMs) * refillPerMs capacity ≤
                (last - first) * refillPerMs capacity :=
              mul_le_mul_of_nonneg_right (by linarith) flows
            rw [allowedUntil_cons _ _ _ _ inside, Nat.cast_add, Nat.cast_ite, Nat.cast_one,
              Nat.cast_zero]
            linarith
          · rw [allowedUntil_of_late ordered _ (lt_of_not_ge inside), Nat.cast_zero]
            · linarith
            · rw [List.map_cons, replies_times]
        · rw [List.map_cons, replies_times]
          intro other member
          exact begun.trans (first_le ordered member)

/-- The script on a key that never expires. -/
def persistentBuckets (capacity : Nat) :
    List Int → Option RateBucket → List (Int × Bool) × Option RateBucket
  | [], stored => ([], stored)
  | nowMs :: rest, stored =>
      let (allowed, bucket) := bucketScript capacity nowMs stored
      let (replies, final) := persistentBuckets capacity rest (some bucket)
      ((nowMs, allowed) :: replies, final)

theorem evalBuckets_eq_persistentBuckets {stored : Option RateBucket}
    (within : ∀ bucket ∈ stored, bucket.Within capacity) :
    evalBuckets capacity times stored = persistentBuckets capacity times stored := by
  induction times generalizing stored with
  | nil => rfl
  | cons nowMs rest induction =>
      have kept := takeAt_within nowMs within
      rw [evalBuckets, persistentBuckets, evalBucket_eq within, bucketScript_eq]
      simp only [induction kept]

/-- What a bucket guarantees about a run of calls. -/
structure RateBounded (capacity : Nat) (times : List Int) : Prop where
  window : ∀ start length : Rat, 0 ≤ length →
    (allowedWithin start (start + length) (evalBuckets capacity times none).1 : Rat) ≤
      capacity + capacity * length / 60000
  tokens : ∀ earlier, earlier <+: times →
    ∀ bucket ∈ (evalBuckets capacity earlier none).2,
      0 ≤ bucket.tokens ∧ bucket.tokens ≤ capacity
  expiry : evalBuckets capacity times none = persistentBuckets capacity times none

/-- However the calls come, a bucket allows its capacity and what flows in meanwhile. -/
theorem commandRate_bounded (capacity : Nat) (times : List Int)
    (ordered : times.Pairwise (· ≤ ·)) : RateBounded capacity times where
  window := by
    intro start length forward
    have bound : (allowedWithin start (start + length) (evalBuckets capacity times none).1 : Rat) ≤
        capacity + (start + length - start) * refillPerMs capacity :=
      allowedWithin_le (by simp) ordered (by linarith)
    have rate : (start + length - start) * refillPerMs capacity = capacity * length / 60000 := by
      unfold refillPerMs
      ring
    rw [rate] at bound
    exact bound
  tokens := by
    intro earlier _ bucket found
    exact evalBuckets_within none (by simp) bucket found
  expiry := evalBuckets_eq_persistentBuckets (by simp)

/-- A bucket of one token, and calls at once, within the minute and after the key has
expired. -/
theorem commandRate_bounded_burst :
    RateBounded 1 [0, 0, 30000, 60000, 200000] :=
  commandRate_bounded 1 _ (by decide)

end Windows

/-! ## The command -/

/-- The first characters of the hash of a value stand for it. -/
def rateKey (scope value : String) : String :=
  let digest := (Sha256.hexDigest (JsonText.utf8 value.toList)).toList.take 24
  "supportguard:rate:v1:" ++ scope ++ ":" ++ String.ofList digest

/-- The buckets in Redis, by key. -/
abbrev RateBuckets : Type :=
  String → Option RateBucket

/-- `redis.eval(BUCKET_SCRIPT, 1, key, capacity)`. -/
def redisEval (key : String) (capacity : Nat) (nowMs : Int) :
    Program RateBuckets RuntimeRaise Bool := do
  let buckets ← reads id
  let (allowed, bucket) := evalBucket capacity nowMs (buckets key)
  modify fun buckets => Function.update buckets key (some bucket)
  pure allowed

structure AdmissionSettings where
  maxDurableBacklog : Nat
  runtimeOperationalHorizonSeconds : Nat
  tenantCommandsPerMinute : Nat
  principalCommandsPerMinute : Nat
  fallbackCommandsPerMinute : Nat

/-- What a call reads of the database and the clocks: the number of open jobs, the age of
the oldest in microseconds, the recent commands of the principal, and the script's time for
each bucket. No time stands for a Redis that does not answer. -/
structure AdmissionLoad where
  backlog : Nat
  oldestAge : Option Int
  fallbackCount : Nat
  tenantMs : Option Int
  principalMs : Option Int

/-- `admit_command` on a database that is not PostgreSQL. -/
def admitCommand (settings : AdmissionSettings) (load : AdmissionLoad)
    (tenantId principalId : String) : Program RateBuckets RuntimeRaise String := do
  let backpressure := RuntimeRaise.runtimeConflict "runtime_backpressure"
  refuseWhen (settings.maxDurableBacklog ≤ load.backlog) backpressure
  refuseWhen (load.oldestAge.any fun age =>
      (settings.runtimeOperationalHorizonSeconds : Int) * 1000000 ≤ age)
    backpressure
  let fallback : Program RateBuckets RuntimeRaise String :=
    if load.fallbackCount ≤ settings.fallbackCommandsPerMinute then pure "postgres_fallback"
    else raise backpressure
  match load.tenantMs with
  | none => fallback
  | some tenantMs => do
      let tenantAllowed ← redisEval (rateKey "tenant" tenantId)
        settings.tenantCommandsPerMinute tenantMs
      match load.principalMs with
      | none => fallback
      | some principalMs => do
          let principalAllowed ← redisEval
            (rateKey "principal" (tenantId ++ ":" ++ principalId))
            settings.principalCommandsPerMinute principalMs
          refuseWhen (tenantAllowed = false ∨ principalAllowed = false)
            (.runtimeConflict "command_rate_limited")
          pure "redis_token_bucket"

/-! ## Histories of a tenant

Calls run side by side, so a history lists the runs of the script; a call has one for each
of its buckets. -/

inductive BucketScope
  | tenant
  | principal
deriving DecidableEq

structure ScriptRun where
  /-- The call it belongs to. -/
  call : Nat
  principalId : String
  scope : BucketScope
  nowMs : Int
deriving DecidableEq

section Histories

variable (settings : AdmissionSettings) (tenantId : String)

def ScriptRun.key (run : ScriptRun) : String :=
  match run.scope with
  | .tenant => rateKey "tenant" tenantId
  | .principal => rateKey "principal" (tenantId ++ ":" ++ run.principalId)

def ScriptRun.capacity (run : ScriptRun) : Nat :=
  match run.scope with
  | .tenant => settings.tenantCommandsPerMinute
  | .principal => settings.principalCommandsPerMinute

/-- The runs of a call that Redis answers. -/
def commandRuns (call : Nat) (principalId : String) (tenantMs principalMs : Int) :
    List ScriptRun :=
  [{ call, principalId, scope := .tenant, nowMs := tenantMs },
    { call, principalId, scope := .principal, nowMs := principalMs }]

/-- What the runs return. -/
def runScripts : List ScriptRun → RateBuckets → List (ScriptRun × Bool)
  | [], _ => []
  | run :: rest, buckets =>
      let (allowed, bucket) :=
        evalBucket (run.capacity settings) run.nowMs (buckets (run.key tenantId))
      (run, allowed) ::
        runScripts rest (Function.update buckets (run.key tenantId) (some bucket))

/-- The outcome of a call: every bucket has to allow it. -/
def outcomeOf (replies : List (ScriptRun × Bool)) (call : Nat) : Except RuntimeRaise String :=
  if replies.all fun reply => reply.1.call ≠ call || reply.2 then .ok "redis_token_bucket"
  else .error (.runtimeConflict "command_rate_limited")

/-- A call that runs alone is its two runs of the script. -/
theorem admitCommand_eq {load : AdmissionLoad} {tenantMs principalMs : Int}
    (principalId : String) (buckets : RateBuckets) (call : Nat)
    (calm : load.backlog < settings.maxDurableBacklog)
    (young : ∀ age ∈ load.oldestAge,
      age < (settings.runtimeOperationalHorizonSeconds : Int) * 1000000)
    (tenantAnswers : load.tenantMs = some tenantMs)
    (principalAnswers : load.principalMs = some principalMs) :
    (admitCommand settings load tenantId principalId buckets).1 =
      outcomeOf (runScripts settings tenantId (commandRuns call principalId tenantMs principalMs)
        buckets) call := by
  have calm' : ¬settings.maxDurableBacklog ≤ load.backlog := not_le.mpr calm
  have young' : load.oldestAge.any (fun age =>
      (settings.runtimeOperationalHorizonSeconds : Int) * 1000000 ≤ age) = false := by
    cases aged : load.oldestAge with
    | none => rfl
    | some age =>
        have under := young age aged
        simp only [Option.any_some, decide_eq_false_iff_not]
        omega
  simp only [admitCommand, refuseWhen, if_neg calm', young', Bool.false_eq_true, if_false,
    tenantAnswers, principalAnswers]
  simp only [outcomeOf, commandRuns, runScripts, ScriptRun.key, ScriptRun.capacity, List.all_cons,
    List.all_nil, ne_eq, not_true_eq_false, decide_false, Bool.false_or, Bool.and_true]
  cases tenant : evalBucket settings.tenantCommandsPerMinute tenantMs
      (buckets (rateKey "tenant" tenantId)) with
  | mk tenantAllowed bucket =>
      cases principal : evalBucket settings.principalCommandsPerMinute principalMs
          (Function.update buckets (rateKey "tenant" tenantId) (some bucket)
            (rateKey "principal" (tenantId ++ ":" ++ principalId))) with
      | mk principalAllowed _ =>
          simp only [redisEval, bind, reads, pure, Program.modify, id_eq, tenant, principal]
          cases tenantAllowed <;> cases principalAllowed <;> rfl

/-! ### Equivalent buckets -/

/-- Two buckets that every later call finds with the same tokens. -/
structure Alike (capacity : Nat) (since : Int) (left right : Option RateBucket) : Prop where
  leftWithin : ∀ bucket ∈ left, bucket.Within capacity ∧ bucket.updatedMs ≤ since
  rightWithin : ∀ bucket ∈ right, bucket.Within capacity ∧ bucket.updatedMs ≤ since
  tokens : ∀ nowMs, since ≤ nowMs → tokensAt capacity nowMs left = tokensAt capacity nowMs right

section Alike

variable {capacity : Nat} {since nowMs : Int} {left right : Option RateBucket}

theorem alike_none (capacity : Nat) (since : Int) : Alike capacity since none none where
  leftWithin := by simp
  rightWithin := by simp
  tokens := fun _ _ => rfl

theorem Alike.later (alike : Alike capacity since left right) (after : since ≤ nowMs) :
    Alike capacity nowMs left right where
  leftWithin := by
    intro bucket found
    obtain ⟨within, updated⟩ := alike.leftWithin bucket found
    exact ⟨within, updated.trans after⟩
  rightWithin := by
    intro bucket found
    obtain ⟨within, updated⟩ := alike.rightWithin bucket found
    exact ⟨within, updated.trans after⟩
  tokens := by
    intro laterMs behind
    exact alike.tokens laterMs (after.trans behind)

/-- Refilling a bucket on the way makes no difference. -/
theorem tokensAt_tokensAt {stored : Option RateBucket} {laterMs : Int}
    (past : ∀ bucket ∈ stored, bucket.updatedMs ≤ nowMs) (after : nowMs ≤ laterMs) :
    tokensAt capacity laterMs
        (some { tokens := tokensAt capacity nowMs stored, updatedMs := nowMs }) =
      tokensAt capacity laterMs stored := by
  have second : (0 : Rat) ≤ (laterMs - nowMs : Int) := by
    exact_mod_cast (by omega : (0 : Int) ≤ laterMs - nowMs)
  have flows := refillPerMs_nonneg capacity
  cases stored with
  | none =>
      have full : ∀ time, tokensAt capacity time none = capacity := by
        intro time
        apply TokenBucket.refill_eq_capacity
        simp
      rw [full laterMs, full nowMs]
      apply TokenBucket.refill_eq_capacity
      have gained : 0 ≤ max 0 (((laterMs - nowMs : Int)) : Rat) * refillPerMs capacity :=
        mul_nonneg (le_max_left _ _) flows
      simp only [Option.map_some, Option.getD_some]
      linarith
  | some bucket =>
      have first : (0 : Rat) ≤ (nowMs - bucket.updatedMs : Int) := by
        have := past bucket rfl
        exact_mod_cast (by omega : (0 : Int) ≤ nowMs - bucket.updatedMs)
      have total : ((nowMs - bucket.updatedMs : Int) : Rat) + (laterMs - nowMs : Int) =
          (laterMs - bucket.updatedMs : Int) := by
        push_cast
        ring
      have joined : TokenBucket.refill (capacity : Rat) (refillPerMs capacity)
          (TokenBucket.refill capacity (refillPerMs capacity) bucket.tokens
            (nowMs - bucket.updatedMs : Int)) (laterMs - nowMs : Int) = _ :=
        TokenBucket.refill_refill flows first second
      rw [total] at joined
      exact joined

theorem Alike.evalBucket_left (alike : Alike capacity since left right) :
    evalBucket capacity nowMs left =
      (TokenBucket.grants (tokensAt capacity nowMs left),
        { tokens := TokenBucket.take (tokensAt capacity nowMs left), updatedMs := nowMs }) := by
  rw [evalBucket_eq fun bucket found => (alike.leftWithin bucket found).1, bucketScript_eq]

theorem Alike.symm (alike : Alike capacity since left right) : Alike capacity since right left where
  leftWithin := alike.rightWithin
  rightWithin := alike.leftWithin
  tokens := fun laterMs after => (alike.tokens laterMs after).symm

/-- A call finds alike buckets the same. -/
theorem Alike.evalBucket_eq (alike : Alike capacity since left right) (after : since ≤ nowMs) :
    evalBucket capacity nowMs left = evalBucket capacity nowMs right := by
  rw [alike.evalBucket_left, alike.symm.evalBucket_left, alike.tokens nowMs after]

/-- What a call leaves is alike to itself. -/
theorem alike_evalBucket {stored : Option RateBucket}
    (within : ∀ bucket ∈ stored, bucket.Within capacity) :
    Alike capacity nowMs (some (evalBucket capacity nowMs stored).2)
      (some (evalBucket capacity nowMs stored).2) := by
  have kept : ∀ bucket ∈ some (evalBucket capacity nowMs stored).2,
      bucket.Within capacity ∧ bucket.updatedMs ≤ nowMs := by
    intro bucket same
    cases same
    rw [evalBucket_eq within]
    refine ⟨bucketScript_within within, ?_⟩
    rw [bucketScript_eq]
  exact ⟨kept, kept, fun _ _ => rfl⟩

/-- A call that is refused leaves an alike bucket. -/
theorem Alike.refused (alike : Alike capacity since left right) (after : since ≤ nowMs)
    (refused : (evalBucket capacity nowMs left).1 = false) :
    Alike capacity nowMs (some (evalBucket capacity nowMs left).2) right where
  leftWithin :=
    (alike_evalBucket fun bucket found => (alike.leftWithin bucket found).1).leftWithin
  rightWithin := (alike.later after).rightWithin
  tokens := by
    intro laterMs behind
    rw [alike.evalBucket_left] at refused ⊢
    rw [TokenBucket.take_of_refused refused,
      tokensAt_tokensAt (fun bucket found => (alike.leftWithin bucket found).2.trans after) behind,
      alike.tokens laterMs (after.trans behind)]

end Alike

/-! ### Calls that take nothing -/

/-- The tenant's key is no principal's. -/
theorem rateKey_ne (value other : String) : rateKey "tenant" value ≠ rateKey "principal" other := by
  have apart : ∀ digest digest' : String,
      "supportguard:rate:v1:" ++ "tenant" ++ ":" ++ digest ≠
        "supportguard:rate:v1:" ++ "principal" ++ ":" ++ digest' := by
    intro digest digest' same
    have texts := congrArg String.toList same
    simp only [String.toList_append, List.append_assoc, List.append_cancel_left_eq] at texts
    exact absurd (List.cons.inj texts).1 (by decide)
  exact apart _ _

variable {settings tenantId}

theorem ScriptRun.capacity_eq {run other : ScriptRun}
    (same : run.key tenantId = other.key tenantId) :
    run.capacity settings = other.capacity settings := by
  unfold ScriptRun.key at same
  unfold ScriptRun.capacity
  cases scope : run.scope <;> cases scope' : other.scope <;> simp only [scope, scope'] at same ⊢
  · exact absurd same (rateKey_ne _ _)
  · exact absurd same.symm (rateKey_ne _ _)

/-- Stores that every later run finds alike. -/
def AlikeBuckets (settings : AdmissionSettings) (tenantId : String) (since : Int)
    (left right : RateBuckets) : Prop :=
  ∀ run : ScriptRun, Alike (run.capacity settings) since (left (run.key tenantId))
    (right (run.key tenantId))

theorem AlikeBuckets.step {since nowMs : Int} {left right left' right' : RateBuckets}
    {run : ScriptRun} (alike : AlikeBuckets settings tenantId since left right)
    (after : since ≤ nowMs)
    (here : Alike (run.capacity settings) nowMs (left' (run.key tenantId))
      (right' (run.key tenantId)))
    (leftKept : ∀ key, key ≠ run.key tenantId → left' key = left key)
    (rightKept : ∀ key, key ≠ run.key tenantId → right' key = right key) :
    AlikeBuckets settings tenantId nowMs left' right' := by
  intro other
  by_cases same : other.key tenantId = run.key tenantId
  · rw [same, ScriptRun.capacity_eq same]
    exact here
  · rw [leftKept _ same, rightKept _ same]
    exact (alike other).later after

/-- Runs that are refused change no other reply. -/
theorem runScripts_filter {extra : Nat → Bool} {since : Int} {left right : RateBuckets}
    {history : List ScriptRun} (alike : AlikeBuckets settings tenantId since left right)
    (ordered : (since :: history.map ScriptRun.nowMs).Pairwise (· ≤ ·))
    (refused : ∀ reply ∈ runScripts settings tenantId history left,
      extra reply.1.call = true → reply.2 = false) :
    (runScripts settings tenantId history left).filter (fun reply => !extra reply.1.call) =
      runScripts settings tenantId (history.filter fun run => !extra run.call) right := by
  induction history generalizing since left right with
  | nil => rfl
  | cons run rest induction =>
      rw [List.map_cons, List.pairwise_cons] at ordered
      have after : since ≤ run.nowMs := ordered.1 run.nowMs (by simp)
      have here := alike run
      have first := refused (run, _) (List.mem_cons_self ..)
      have others : ∀ reply ∈ runScripts settings tenantId rest (Function.update left
          (run.key tenantId) (some (evalBucket (run.capacity settings) run.nowMs
            (left (run.key tenantId))).2)), extra reply.1.call = true → reply.2 = false := by
        intro reply member
        exact refused reply (List.mem_cons_of_mem _ member)
      have leftKept : ∀ key, key ≠ run.key tenantId →
          Function.update left (run.key tenantId) (some (evalBucket (run.capacity settings)
            run.nowMs (left (run.key tenantId))).2) key = left key := by
        intro key other
        exact Function.update_of_ne other _ _
      cases added : extra run.call with
      | true =>
          simp only [runScripts, List.filter_cons, added, Bool.not_true, Bool.false_eq_true,
            if_false]
          apply induction _ ordered.2 others
          apply alike.step after _ leftKept (fun _ _ => rfl)
          rw [Function.update_self]
          exact here.refused after (first added)
      | false =>
          have same := here.evalBucket_eq after
          simp only [runScripts, List.filter_cons, added, Bool.not_false, if_true]
          rw [same] at others leftKept ⊢
          congr 1
          apply induction _ ordered.2 others
          apply alike.step after _ leftKept (fun key other => Function.update_of_ne other _ _)
          rw [Function.update_self, Function.update_self]
          exact alike_evalBucket fun bucket found => (here.rightWithin bucket found).1

theorem outcomeOf_filter {replies : List (ScriptRun × Bool)} {extra : Nat → Bool} {call : Nat}
    (other : extra call = false) :
    outcomeOf (replies.filter fun reply => !extra reply.1.call) call = outcomeOf replies call := by
  have same : (replies.filter fun reply => !extra reply.1.call).all
        (fun reply => reply.1.call ≠ call || reply.2) =
      replies.all fun reply => reply.1.call ≠ call || reply.2 := by
    rw [List.all_filter]
    congr 1
    funext reply
    by_cases mine : reply.1.call = call
    · simp [mine, other]
    · simp [mine]
  rw [outcomeOf, outcomeOf, same]

/-- The calls of a history besides the extra ones come out as they do without them. -/
def SpendsNothing (settings : AdmissionSettings) (tenantId : String) (history : List ScriptRun)
    (extra : Nat → Bool) : Prop :=
  ∀ call, extra call = false →
    outcomeOf (runScripts settings tenantId history fun _ => none) call =
      outcomeOf (runScripts settings tenantId (history.filter fun run => !extra run.call)
        fun _ => none) call

/-- Calls that neither bucket allows leave no trace. -/
theorem refusedCalls_spendNothing (settings : AdmissionSettings) (tenantId : String)
    (history : List ScriptRun) (extra : Nat → Bool)
    (ordered : (history.map ScriptRun.nowMs).Pairwise (· ≤ ·))
    (refused : ∀ reply ∈ runScripts settings tenantId history fun _ => none,
      extra reply.1.call = true → reply.2 = false) :
    SpendsNothing settings tenantId history extra := by
  intro call other
  have alike : ∀ since, AlikeBuckets settings tenantId since (fun _ => none) fun _ => none :=
    fun since run => alike_none _ since
  cases history with
  | nil => rfl
  | cons run rest =>
      have started : (run.nowMs :: (run :: rest).map ScriptRun.nowMs).Pairwise (· ≤ ·) := by
        rw [List.map_cons] at ordered ⊢
        rw [List.pairwise_cons]
        refine ⟨?_, ordered⟩
        intro time member
        rcases List.mem_cons.mp member with same | later
        · exact same.symm.le
        · exact (List.pairwise_cons.mp ordered).1 time later
      rw [← runScripts_filter (alike run.nowMs) started refused, outcomeOf_filter other]

/-- Two calls of one principal in a tenant of one token, with a call of another between
them that is refused as well. -/
theorem refusedCalls_spendNothing_empty :
    SpendsNothing ⟨10, 60, 1, 1, 10⟩ "t"
      (commandRuns 0 "p" 0 0 ++ commandRuns 1 "p" 0 1 ++ commandRuns 2 "q" 2 2) (· == 1) :=
  refusedCalls_spendNothing _ _ _ _ (by decide) (by decide +kernel)

/-- The extra calls are one principal's, and its own bucket refuses them. -/
structure OwnBucketRefuses (settings : AdmissionSettings) (tenantId : String)
    (history : List ScriptRun) (extra : Nat → Bool) (principalId : String) : Prop where
  own : ∀ run ∈ history, extra run.call = true → run.principalId = principalId
  refused : ∀ reply ∈ runScripts settings tenantId history fun _ => none,
    extra reply.1.call = true → reply.1.scope = .principal → reply.2 = false

/-- The tenant's bucket is charged first: a principal that its own bucket refuses has taken
the tenant's second token, and another principal goes without. -/
theorem throttledPrincipal_spends :
    OwnBucketRefuses ⟨10, 60, 2, 1, 10⟩ "t"
      (commandRuns 0 "p" 0 0 ++ commandRuns 1 "p" 0 0 ++ commandRuns 2 "q" 0 0) (· == 1) "p" ∧
    outcomeOf (runScripts ⟨10, 60, 2, 1, 10⟩ "t"
      (commandRuns 0 "p" 0 0 ++ commandRuns 1 "p" 0 0 ++ commandRuns 2 "q" 0 0)
      fun _ => none) 2 = .error (.runtimeConflict "command_rate_limited") ∧
    outcomeOf (runScripts ⟨10, 60, 2, 1, 10⟩ "t"
      (commandRuns 0 "p" 0 0 ++ commandRuns 2 "q" 0 0)
      fun _ => none) 2 = .ok "redis_token_bucket" := by
  refine ⟨⟨by decide, by decide +kernel⟩, ?_, ?_⟩
  · decide +kernel
  · decide +kernel

end Histories

end SupportGuard
