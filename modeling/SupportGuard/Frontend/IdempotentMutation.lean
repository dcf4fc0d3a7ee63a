import Mathlib.Data.List.Infix
import SupportGuard.Foundation.JsValue
import SupportGuard.Services.Idempotency

/-! # Commands that are sent again

`productApi.ts` and `useIdempotentMutation.ts`: how a request ends for the client, and
which key its next attempt carries. -/

namespace SupportGuard

open Foundation Program

/-! ## Requests -/

/-- How `response.json()` ends. -/
inductive BodyRead
  | value (payload : JsValue)
  | syntaxError
  | typeError
  | aborted

structure HttpResponse where
  status : Nat
  contentType : Option String
  /-- The header `X-Request-ID`. -/
  requestId : Option String
  body : BodyRead

/-- How `fetch` ends. -/
inductive FetchResult
  | response (answer : HttpResponse)
  | networkFailure
  | aborted

/-- What a request throws. -/
inductive ClientError
  | abortError
  | typeError
  | syntaxError
  | productApiError (message : String) (status : Nat) (code : String) (retryable : Bool)

def publicProblemCodes : List String :=
  ["authentication_required", "forbidden", "internal_error", "invalid_request", "rate_limited",
    "request_rejected", "resource_not_found", "service_unavailable", "state_conflict"]

/-- What `trim` takes away. -/
def isJsSpace (char : Char) : Bool :=
  (9 ≤ char.toNat ∧ char.toNat ≤ 13) ∨ (0x2000 ≤ char.toNat ∧ char.toNat ≤ 0x200A) ∨
    char.toNat ∈ [0x20, 0xA0, 0x1680, 0x2028, 0x2029, 0x202F, 0x205F, 0x3000, 0xFEFF]

/-- The length of a string counts UTF-16 units. -/
def jsLength (text : String) : Nat :=
  (text.toList.map fun char => if char.toNat < 0x10000 then 1 else 2).sum

/-- `/^[A-Za-z0-9_.:-]{1,128}$/`. -/
def isRequestId (text : String) : Bool :=
  1 ≤ text.length && text.length ≤ 128 && text.toList.all fun char =>
    char.isAlphanum || ['_', '.', ':', '-'].contains char

structure ProductProblem where
  code : String
  message : String
  retryable : Bool
  requestId : String

/-- `productProblem`. A property of null cannot be read. -/
def productProblem (payload : JsValue) : Except ClientError (Option ProductProblem) :=
  match payload with
  | .null => .error .typeError
  | payload =>
      match payload.property? "public_code", payload.property? "message",
        payload.property? "retryable", payload.property? "request_id" with
      | some (.string code), some (.string message), some (.bool retryable),
        some (.string requestId) =>
          if code ∈ publicProblemCodes ∧ message.toList.any (!isJsSpace ·) ∧
              jsLength message ≤ 500 ∧ isRequestId requestId then
            .ok (some { code, message, retryable, requestId })
          else .ok none
      | _, _, _, _ => .ok none

def fallbackError (status : Nat) : String :=
  match status with
  | 401 => "登录状态已失效，请重新登录。"
  | 403 => "当前身份无权执行此操作。"
  | 404 => "未找到该资源，或你没有访问权限。"
  | 409 => "状态已经发生变化，请刷新后重试。"
  | 422 => "提交内容不符合要求，请检查后重试。"
  | 429 => "请求过于频繁，请稍后再试。"
  | 502 | 503 | 504 => "服务暂时不可用，请稍后重试。"
  | _ => "请求未能完成，请稍后重试。"

namespace HttpResponse

def ok (response : HttpResponse) : Bool :=
  200 ≤ response.status && response.status ≤ 299

/-- The payload of an error: the body when it is declared as JSON and is, else an empty
object. -/
def errorPayload (response : HttpResponse) : JsValue :=
  match response.contentType with
  | none => .object []
  | some contentType =>
      if "application/json".toList <:+: contentType.toList then
        match response.body with
        | .value payload => payload
        | _ => .object []
      else .object []

/-- The error that stands for a response. -/
def apiError (response : HttpResponse) : ClientError :=
  match productProblem response.errorPayload with
  | .error error => error
  | .ok problem =>
      let requestId := (response.requestId.filter isRequestId).or
        (problem.map ProductProblem.requestId)
      let message := (problem.map ProductProblem.message).getD (fallbackError response.status)
      .productApiError
        (match requestId with
          | some requestId => message ++ "（请求编号：" ++ requestId ++ "）"
          | none => message)
        response.status
        ((problem.map ProductProblem.code).getD ("http_" ++ toString response.status))
        (problem.any ProductProblem.retryable || response.status ∈ [429, 502, 503, 504])

end HttpResponse

/-- `api`. -/
def api : FetchResult → Except ClientError JsValue
  | .aborted => .error .abortError
  | .networkFailure => .error .typeError
  | .response answer =>
      if answer.ok then
        match answer.body with
        | .value payload => .ok payload
        | .syntaxError => .error .syntaxError
        | .typeError => .error .typeError
        | .aborted => .error .abortError
      else .error answer.apiError

/-! ## The hook -/

structure PendingMutation where
  identity : String
  key : String
deriving DecidableEq

/-- The references of `useIdempotentMutation`. -/
structure MutationHook where
  pending : Option PendingMutation := none
  inFlight : Bool := false

/-- Whether the key is kept for another attempt. -/
def ClientError.isRetryable : ClientError → Bool
  | .abortError => false
  | .productApiError _ _ _ retryable => retryable
  | .typeError => true
  | .syntaxError => false

namespace MutationHook

/-- The key that a run goes by: the one that is kept for its identity, or a new one. -/
def choose (hook : MutationHook) (identity newKey : String) : PendingMutation :=
  match hook.pending with
  | none => { identity, key := newKey }
  | some pending => if pending.identity = identity then pending else { identity, key := newKey }

/-- `run` up to its operation; none where it throws `mutation_in_progress`. -/
def start (hook : MutationHook) (identity newKey : String) :
    Option (MutationHook × PendingMutation) :=
  if hook.inFlight then none
  else
    let current := hook.choose identity newKey
    some ({ pending := some current, inFlight := true }, current)

/-- `run` from the end of its operation on. -/
def finish (hook : MutationHook) (outcome : Except ClientError JsValue) : MutationHook :=
  match outcome with
  | .ok _ => { pending := none, inFlight := false }
  | .error error =>
      { pending := if error.isRetryable then hook.pending else none, inFlight := false }

end MutationHook

/-! ## Histories -/

/-- A command that was sent, how that ended for the client, and whether it reached the
server. -/
structure SentCommand where
  identity : String
  key : String
  fetched : FetchResult
  arrives : Bool
  payload : Json

inductive MutationMove
  /-- `run` is called; the key is what `createIdempotencyKey` would return. -/
  | call (identity newKey : String)
  /-- The operation under way ends. -/
  | settle (fetched : FetchResult) (arrives : Bool) (payload : Json)

structure MutationHistory where
  hook : MutationHook := {}
  /-- What the run under way holds. -/
  current : Option PendingMutation := none
  sent : List SentCommand := []

namespace MutationHistory

def move (history : MutationHistory) : MutationMove → MutationHistory
  | .call identity newKey =>
      match history.hook.start identity newKey with
      | none => history
      | some (hook, current) => { history with hook, current := some current }
  | .settle fetched arrives payload =>
      match history.current with
      | none => history
      | some current =>
          { hook := history.hook.finish (api fetched)
            current := none
            sent := history.sent ++
              [{ identity := current.identity, key := current.key, fetched, arrives, payload }] }

def run (moves : List MutationMove) : MutationHistory :=
  moves.foldl move {}

end MutationHistory

/-- The keys that may be drawn, in the order of the calls. -/
def newKeys (moves : List MutationMove) : List String :=
  moves.filterMap fun
    | .call _ newKey => some newKey
    | .settle _ _ _ => none

/-! ## The server -/

/-- Where the commands of an identity go, and who sends them. -/
structure CommandRoute where
  tenantId : String
  principalId : String
  route : String

def SentCommand.scope (routes : String → CommandRoute) (command : SentCommand) :
    IdempotencyScope :=
  { tenantId := (routes command.identity).tenantId
    principalId := (routes command.identity).principalId
    route := (routes command.identity).route
    key := command.key }

/-- A request arrives: the command is stored unless its key is known. -/
def receiveCommand (routes : String → CommandRoute) (database : Database)
    (command : SentCommand) : Database :=
  (IdempotencyRepository.accept (command.scope routes) command.payload [] [] database).2

/-- The commands that the server holds for two requests. -/
def heldCommands (routes : String → CommandRoute) (database : Database)
    (first second : SentCommand) : List IdempotencyRequest :=
  database.idempotency.filter fun record =>
    record.scope = first.scope routes ∨ record.scope = second.scope routes

/-! ## Retries -/

/-- A command that failed, and the next one, for the same identity. -/
structure Retried (sent : List SentCommand) (first second : SentCommand) : Prop where
  adjacent : [first, second] <:+: sent
  failed : ∀ value, api first.fetched ≠ .ok value
  identity : second.identity = first.identity

/-- The failures that keep the key: the network fails, or the answer is an error that is
marked as temporary, by its status or by a problem that says so. -/
def isAmbiguous : FetchResult → Bool
  | .aborted => false
  | .networkFailure => true
  | .response answer =>
      if answer.ok then answer.body matches .typeError
      else decide (answer.status ∈ [429, 502, 503, 504]) ||
        match productProblem answer.errorPayload with
        | .error _ => true
        | .ok problem => problem.any ProductProblem.retryable

/-- Whether an attempt leaves its key for the next. -/
def keepsKey : Except ClientError JsValue → Bool
  | .ok _ => false
  | .error error => error.isRetryable

theorem productProblem_error {payload : JsValue} {error : ClientError}
    (fails : productProblem payload = .error error) : error = .typeError := by
  unfold productProblem at fails
  split at fails
  · cases fails
    rfl
  · split at fails
    · split at fails
      · cases fails
      · cases fails
    · cases fails

theorem isRetryable_apiError (answer : HttpResponse) :
    answer.apiError.isRetryable =
      (decide (answer.status ∈ [429, 502, 503, 504]) ||
        match productProblem answer.errorPayload with
        | .error _ => true
        | .ok problem => problem.any ProductProblem.retryable) := by
  unfold HttpResponse.apiError
  cases found : productProblem answer.errorPayload with
  | error error =>
      rw [productProblem_error found]
      simp [ClientError.isRetryable]
  | ok problem => simp [ClientError.isRetryable, Bool.or_comm]

theorem keepsKey_api (fetched : FetchResult) : keepsKey (api fetched) = isAmbiguous fetched := by
  cases fetched with
  | aborted => rfl
  | networkFailure => rfl
  | response answer =>
      simp only [api, isAmbiguous]
      split
      · cases answer.body <;> rfl
      · exact isRetryable_apiError answer

theorem pending_finish (hook : MutationHook) (fetched : FetchResult) :
    hook.finish (api fetched) =
      { pending := if isAmbiguous fetched then hook.pending else none, inFlight := false } := by
  rw [← keepsKey_api]
  cases api fetched with
  | ok _ => rfl
  | error _ => rfl

/-! ### Keys -/

/-- The key of an attempt and the one before it: the same exactly when that one left its
key and was for the same identity. -/
def SameKeyIff (before : SentCommand) (identity key : String) : Prop :=
  key = before.key ↔ isAmbiguous before.fetched = true ∧ before.identity = identity

structure MutationInvariant (drawn : List String) (history : MutationHistory) : Prop where
  keys : ∀ command ∈ history.sent, command.key ∈ drawn
  idle : history.hook.inFlight = false → history.current = none ∧
    history.hook.pending = history.sent.getLast?.bind fun last =>
      if isAmbiguous last.fetched then some { identity := last.identity, key := last.key }
      else none
  busy : history.hook.inFlight = true → ∃ current, history.current = some current ∧
    history.hook.pending = some current ∧ current.key ∈ drawn ∧
    ∀ last ∈ history.sent.getLast?, SameKeyIff last current.identity current.key
  adjacent : ∀ first second, [first, second] <:+: history.sent →
    SameKeyIff first second.identity second.key

/-- The last two of a list that has grown. -/
theorem pair_infix_concat {α : Type} {first second last : α} {items : List α}
    (adjacent : [first, second] <:+: items ++ [last]) :
    [first, second] <:+: items ∨ items.getLast? = some first ∧ second = last := by
  rcases List.infix_concat_iff.mp adjacent with atEnd | within
  · right
    rcases List.suffix_concat_iff.mp atEnd with empty | ⟨front, same, suffix⟩
    · cases empty
    · have parts : [first] ++ [second] = front ++ [last] := same
      obtain ⟨left, right⟩ := List.append_inj' parts rfl
      rw [← left] at suffix
      exact ⟨List.singleton_suffix_iff_getLast?_eq_some.mp suffix, (List.cons.inj right).1⟩
  · exact .inl within

section Moves

variable {drawn : List String} {history : MutationHistory}

theorem MutationHook.choose_identity (hook : MutationHook) (identity newKey : String) :
    (hook.choose identity newKey).identity = identity := by
  unfold choose
  split
  · rfl
  · split
    · assumption
    · rfl

/-- What an idle hook keeps is from the last command. -/
theorem MutationInvariant.pending (invariant : MutationInvariant drawn history)
    (idle : history.hook.inFlight = false) {pending : PendingMutation}
    (kept : history.hook.pending = some pending) :
    ∃ last, history.sent.getLast? = some last ∧ isAmbiguous last.fetched = true ∧
      pending = { identity := last.identity, key := last.key } := by
  rw [(invariant.idle idle).2] at kept
  obtain ⟨last, latest, found⟩ := Option.bind_eq_some_iff.mp kept
  split at found
  · exact ⟨last, latest, by assumption, (Option.some.inj found).symm⟩
  · cases found

theorem MutationInvariant.choose_key (invariant : MutationInvariant drawn history)
    (idle : history.hook.inFlight = false) (identity newKey : String) :
    (history.hook.choose identity newKey).key ∈ drawn ++ [newKey] := by
  have new : newKey ∈ drawn ++ [newKey] := by simp
  unfold MutationHook.choose
  split
  · exact new
  · rename_i pending kept
    split
    · obtain ⟨last, latest, _, same⟩ := invariant.pending idle kept
      rw [same]
      exact List.mem_append_left _ (invariant.keys last (List.mem_of_getLast? latest))
    · exact new

/-- An idle hook picks the key of the next attempt. -/
theorem MutationInvariant.choose_sameKeyIff (invariant : MutationInvariant drawn history)
    (idle : history.hook.inFlight = false) (identity : String) {newKey : String}
    (fresh : newKey ∉ drawn) {last : SentCommand} (latest : history.sent.getLast? = some last) :
    SameKeyIff last identity (history.hook.choose identity newKey).key := by
  have unused : newKey ≠ last.key := by
    intro same
    exact fresh (same ▸ invariant.keys last (List.mem_of_getLast? latest))
  have kept := (invariant.idle idle).2
  rw [latest, Option.bind_some] at kept
  unfold MutationHook.choose SameKeyIff
  rw [kept]
  by_cases ambiguous : isAmbiguous last.fetched = true
  · by_cases same : last.identity = identity
    · simp [ambiguous, same]
    · simp [ambiguous, same, unused]
  · simp [ambiguous, unused]

theorem MutationInvariant.call (invariant : MutationInvariant drawn history)
    (identity : String) {newKey : String} (fresh : newKey ∉ drawn) :
    MutationInvariant (drawn ++ [newKey]) (history.move (.call identity newKey)) := by
  have keys : ∀ command ∈ history.sent, command.key ∈ drawn ++ [newKey] := by
    intro command member
    exact List.mem_append_left _ (invariant.keys command member)
  cases flying : history.hook.inFlight with
  | true =>
      have refused : history.move (.call identity newKey) = history := by
        simp [MutationHistory.move, MutationHook.start, flying]
      rw [refused]
      refine ⟨keys, invariant.idle, ?_, invariant.adjacent⟩
      intro busy
      obtain ⟨current, known, pending, key, latest⟩ := invariant.busy busy
      exact ⟨current, known, pending, List.mem_append_left _ key, latest⟩
  | false =>
      have started : history.move (.call identity newKey) =
          { history with
            hook := { pending := some (history.hook.choose identity newKey), inFlight := true }
            current := some (history.hook.choose identity newKey) } := by
        simp [MutationHistory.move, MutationHook.start, flying]
      rw [started]
      refine ⟨keys, (fun idle => by cases idle), ?_, invariant.adjacent⟩
      intro _
      refine ⟨_, rfl, rfl, invariant.choose_key flying identity newKey, ?_⟩
      intro last latest
      rw [MutationHook.choose_identity]
      exact invariant.choose_sameKeyIff flying identity fresh latest

theorem MutationInvariant.settle (invariant : MutationInvariant drawn history)
    (fetched : FetchResult) (arrives : Bool) (payload : Json) :
    MutationInvariant drawn (history.move (.settle fetched arrives payload)) := by
  cases flying : history.hook.inFlight with
  | false =>
      have nothing : history.move (.settle fetched arrives payload) = history := by
        simp [MutationHistory.move, (invariant.idle flying).1]
      rw [nothing]
      exact invariant
  | true =>
      obtain ⟨current, known, pending, key, latest⟩ := invariant.busy flying
      simp only [MutationHistory.move, known, pending_finish]
      refine ⟨?_, ?_, (fun busy => by cases busy), ?_⟩
      · intro command member
        rcases List.mem_append.mp member with old | new
        · exact invariant.keys command old
        · rw [List.mem_singleton.mp new]
          exact key
      · intro _
        refine ⟨rfl, ?_⟩
        simp [pending]
      · intro first second adjacent
        rcases pair_infix_concat adjacent with within | ⟨last, same⟩
        · exact invariant.adjacent first second within
        · rw [same]
          exact latest first last

end Moves

theorem mutationInvariant_run (moves : List MutationMove) (fresh : (newKeys moves).Nodup) :
    MutationInvariant (newKeys moves) (MutationHistory.run moves) := by
  induction moves using List.reverseRecOn with
  | nil =>
      refine ⟨by simp [MutationHistory.run], fun _ => ⟨rfl, rfl⟩, (fun busy => by cases busy), ?_⟩
      intro first second adjacent
      cases List.infix_nil.mp adjacent
  | append_singleton earlier last induction =>
      have step : MutationHistory.run (earlier ++ [last]) =
          (MutationHistory.run earlier).move last := by
        rw [MutationHistory.run, List.foldl_append]
        rfl
      rw [step]
      cases last with
      | call identity newKey =>
          have keys :
              newKeys (earlier ++ [.call identity newKey]) = newKeys earlier ++ [newKey] := by
            simp [newKeys]
          rw [keys] at fresh ⊢
          obtain ⟨before, _, apart⟩ := List.nodup_append.mp fresh
          apply (induction before).call
          intro known
          exact apart newKey known newKey (by simp) rfl
      | settle fetched arrives payload =>
          have keys : newKeys (earlier ++ [.settle fetched arrives payload]) = newKeys earlier := by
            simp [newKeys]
          rw [keys] at fresh ⊢
          exact (induction fresh).settle fetched arrives payload

/-! ### Commands -/

section Server

variable (routes : String → CommandRoute)

/-- The record of a command. -/
def SentCommand.record (command : SentCommand) : IdempotencyRequest :=
  { scope := command.scope routes
    requestHash := canonicalRequestHash command.payload
    resourceIds := []
    responseSnapshot := [] }

theorem receiveCommand_idempotency (database : Database) (command : SentCommand) :
    (receiveCommand routes database command).idempotency =
      Table.insertNew IdempotencyRequest.scope database.idempotency (command.record routes) := by
  unfold receiveCommand IdempotencyRepository.accept Table.insertNew
  simp only [bind, reads, id_eq, SentCommand.record]
  cases Table.find IdempotencyRequest.scope database.idempotency (command.scope routes) with
  | none => rfl
  | some existing =>
      simp only [refuseWhen]
      by_cases other : existing.requestHash ≠ canonicalRequestHash command.payload
      · rw [if_pos other]
        rfl
      · rw [if_neg other]
        rfl

theorem received_idempotency (database : Database) (arrivals : List SentCommand) :
    (arrivals.foldl (receiveCommand routes) database).idempotency =
      (arrivals.map (SentCommand.record routes)).foldl (Table.insertNew IdempotencyRequest.scope)
        database.idempotency := by
  induction arrivals generalizing database with
  | nil => rfl
  | cons command rest induction =>
      rw [List.foldl_cons, induction, receiveCommand_idempotency]
      rfl

/-- A command that arrived is held once. -/
theorem count_received {database : Database} (arrivals : List SentCommand)
    {wanted : IdempotencyScope} (unused : ∀ record ∈ database.idempotency, record.scope ≠ wanted) :
    (arrivals.foldl (receiveCommand routes) database).idempotency.countP
        (fun record => decide (record.scope = wanted)) =
      if wanted ∈ arrivals.map (SentCommand.scope routes) then 1 else 0 := by
  have absent : wanted ∉ database.idempotency.map IdempotencyRequest.scope := by
    intro member
    obtain ⟨record, stored, same⟩ := List.mem_map.mp member
    exact unused record stored same
  have scopes : (arrivals.map (SentCommand.record routes)).map IdempotencyRequest.scope =
      arrivals.map (SentCommand.scope routes) := by
    rw [List.map_map]
    rfl
  rw [received_idempotency, Table.count_foldl_insertNew _ _ absent, scopes]

end Server

/-- Two kinds of items are counted one by one. -/
theorem countP_or_eq {α : Type} {left right : α → Bool} {items : List α}
    (apart : ∀ item ∈ items, left item = true → right item = false) :
    items.countP (fun item => left item || right item) =
      items.countP left + items.countP right := by
  induction items with
  | nil => rfl
  | cons head tail induction =>
      have rest := induction fun item member => apart item (List.mem_cons_of_mem _ member)
      have here := apart head (List.mem_cons_self ..)
      rw [List.countP_cons, List.countP_cons, List.countP_cons, rest]
      cases ofLeft : left head with
      | true =>
          rw [here ofLeft]
          simp
          omega
      | false => simp [Nat.add_assoc]

/-- Keys are drawn at random: they are distinct, and new to the server. -/
structure FreshKeys (moves : List MutationMove) (database : Database) : Prop where
  distinct : (newKeys moves).Nodup
  unused : ∀ record ∈ database.idempotency, record.scope.key ∉ newKeys moves

section Retries

variable {routes : String → CommandRoute} {database : Database} {moves : List MutationMove}
  {arrivals : List SentCommand} {first second : SentCommand}

/-- Under one key there is at most one command, and under two there are two. -/
theorem length_heldCommands (fresh : FreshKeys moves database)
    (drawn : first.key ∈ newKeys moves) (drawn' : second.key ∈ newKeys moves)
    (identity : second.identity = first.identity)
    (arrived : first.scope routes ∈ arrivals.map (SentCommand.scope routes)) :
    (heldCommands routes (arrivals.foldl (receiveCommand routes) database) first second).length ≤ 1
      ↔ (second.scope routes ∈ arrivals.map (SentCommand.scope routes) →
        second.key = first.key) := by
  have unused : ∀ command : SentCommand, command.key ∈ newKeys moves →
      ∀ record ∈ database.idempotency, record.scope ≠ command.scope routes := by
    intro command known record stored same
    have key : record.scope.key = command.key := by rw [same]; rfl
    exact fresh.unused record stored (key ▸ known)
  have ofFirst := count_received routes arrivals (unused first drawn)
  have ofSecond := count_received routes arrivals (unused second drawn')
  rw [if_pos arrived] at ofFirst
  rw [heldCommands, ← List.countP_eq_length_filter]
  by_cases sameKey : second.key = first.key
  · have same : second.scope routes = first.scope routes := by
      rw [SentCommand.scope, SentCommand.scope, identity, sameKey]
    simp only [same, or_self, ofFirst, sameKey, implies_true, le_refl]
  · have apart : first.scope routes ≠ second.scope routes := by
      intro same
      exact sameKey (congrArg IdempotencyScope.key same).symm
    have both : (arrivals.foldl (receiveCommand routes) database).idempotency.countP
        (fun record => decide (record.scope = first.scope routes) ||
          decide (record.scope = second.scope routes)) =
        1 + if second.scope routes ∈ arrivals.map (SentCommand.scope routes) then 1 else 0 := by
      rw [← ofSecond, ← ofFirst]
      apply countP_or_eq
      intro record _ isFirst
      simp only [decide_eq_true_eq] at isFirst
      simpa [isFirst] using apart
    simp only [Bool.decide_or, both, sameKey, imp_false]
    split
    · simp_all
    · simp_all

/-- The commands of a failed attempt and the next one. -/
theorem heldCommands_iff (routes : String → CommandRoute) (fresh : FreshKeys moves database)
    (delivered : arrivals.Perm ((MutationHistory.run moves).sent.filter SentCommand.arrives))
    (retried : Retried (MutationHistory.run moves).sent first second)
    (arrives : first.arrives = true) :
    (heldCommands routes (arrivals.foldl (receiveCommand routes) database) first second).length ≤ 1
      ↔ ((∃ other ∈ (MutationHistory.run moves).sent, other.arrives = true ∧
        other.scope routes = second.scope routes) → isAmbiguous first.fetched = true) := by
  have invariant := mutationInvariant_run moves fresh.distinct
  have arrived : ∀ command : SentCommand,
      command.scope routes ∈ arrivals.map (SentCommand.scope routes) ↔
        ∃ other ∈ (MutationHistory.run moves).sent, other.arrives = true ∧
          other.scope routes = command.scope routes := by
    intro command
    rw [(delivered.map _).mem_iff]
    simp [and_assoc]
  have members := retried.adjacent.subset
  have sent : first ∈ (MutationHistory.run moves).sent := members (by simp)
  have sent' : second ∈ (MutationHistory.run moves).sent := members (by simp)
  have keys := invariant.adjacent first second retried.adjacent
  rw [SameKeyIff, retried.identity] at keys
  rw [length_heldCommands fresh (invariant.keys first sent) (invariant.keys second sent')
    retried.identity ((arrived first).mpr ⟨first, sent, arrives, rfl⟩), arrived second, keys]
  simp

end Retries

/-- A retry makes no second command exactly when the failure before it was one that keeps
the key, or nothing reached the server under the key of the retry. -/
theorem retry_notDuplicated_iff (routes : String → CommandRoute) (database : Database)
    (moves : List MutationMove) (fresh : FreshKeys moves database) (arrivals : List SentCommand)
    (delivered : arrivals.Perm ((MutationHistory.run moves).sent.filter SentCommand.arrives)) :
    (∀ first second, Retried (MutationHistory.run moves).sent first second → first.arrives = true →
      (heldCommands routes (arrivals.foldl (receiveCommand routes) database)
        first second).length ≤ 1) ↔
    ∀ first second, Retried (MutationHistory.run moves).sent first second → first.arrives = true →
      (∃ other ∈ (MutationHistory.run moves).sent, other.arrives = true ∧
        other.scope routes = second.scope routes) → isAmbiguous first.fetched = true := by
  constructor
  · intro holds first second retried arrives
    exact (heldCommands_iff routes fresh delivered retried arrives).mp
      (holds first second retried arrives)
  · intro holds first second retried arrives
    exact (heldCommands_iff routes fresh delivered retried arrives).mpr
      (holds first second retried arrives)

/-- A message is stored, but an error comes back; the next attempt is answered. -/
def failedThenSent (failure : FetchResult) : List MutationMove :=
  [.call "message" "first", .settle failure true .null, .call "message" "second",
    .settle (.response ⟨202, some "application/json", none, .value (.object [])⟩) true .null]

def htmlError (status : Nat) : FetchResult :=
  .response ⟨status, some "text/html", none, .syntaxError⟩

theorem failedThenSent_fresh (failure : FetchResult) : FreshKeys (failedThenSent failure) {} where
  distinct := by simp [newKeys, failedThenSent]
  unused := by simp

def failedCommand (failure : FetchResult) : SentCommand :=
  { identity := "message", key := "first", fetched := failure, arrives := true, payload := .null }

def retriedCommand (failure : FetchResult) : SentCommand :=
  { identity := "message"
    key := if isAmbiguous failure then "first" else "second"
    fetched := .response ⟨202, some "application/json", none, .value (.object [])⟩
    arrives := true
    payload := .null }

theorem failedThenSent_sent (failure : FetchResult) :
    (MutationHistory.run (failedThenSent failure)).sent =
      [failedCommand failure, retriedCommand failure] := by
  simp only [MutationHistory.run, failedThenSent, List.foldl, MutationHistory.move,
    MutationHook.start, pending_finish, MutationHook.choose, failedCommand, retriedCommand]
  cases isAmbiguous failure <;> rfl

/-- The second command of the two is the retry of the first. -/
theorem failedThenSent_retried {failure : FetchResult}
    (failed : ∀ value, api failure ≠ .ok value) :
    Retried (MutationHistory.run (failedThenSent failure)).sent (failedCommand failure)
      (retriedCommand failure) where
  adjacent := by rw [failedThenSent_sent]
  failed := failed
  identity := rfl

theorem htmlError_retried (status : Nat) :
    Retried (MutationHistory.run (failedThenSent (htmlError status))).sent
      (failedCommand (htmlError status)) (retriedCommand (htmlError status)) := by
  apply failedThenSent_retried
  intro value answered
  unfold api htmlError at answered
  dsimp only at answered
  split at answered <;> cases answered

/-- A gateway error is retried under its key. -/
theorem retry_notDuplicated_iff_gateway :
    Retried (MutationHistory.run (failedThenSent (htmlError 502))).sent
        (failedCommand (htmlError 502)) (retriedCommand (htmlError 502)) ∧
      (heldCommands (fun _ => ⟨"t", "p", "r"⟩)
        (((MutationHistory.run (failedThenSent (htmlError 502))).sent.filter
          SentCommand.arrives).foldl (receiveCommand fun _ => ⟨"t", "p", "r"⟩) {})
        (failedCommand (htmlError 502)) (retriedCommand (htmlError 502))).length ≤ 1 := by
  constructor
  · exact htmlError_retried 502
  · refine (retry_notDuplicated_iff (fun _ => ⟨"t", "p", "r"⟩) {} _
      (failedThenSent_fresh (htmlError 502)) _ (List.Perm.refl _)).mpr ?_ _ _
        (htmlError_retried 502) rfl
    intro first second retried _ _
    have adjacent := retried.adjacent
    rw [failedThenSent_sent] at adjacent
    rw [(List.cons.inj (adjacent.eq_of_length rfl)).1]
    decide +kernel

/-- An error without a problem gives the key up, and the retry is a second command. -/
theorem serverError_retry_duplicates :
    ¬∀ first second,
      Retried (MutationHistory.run (failedThenSent (htmlError 500))).sent first second →
      first.arrives = true →
      (heldCommands (fun _ => ⟨"t", "p", "r"⟩)
        (((MutationHistory.run (failedThenSent (htmlError 500))).sent.filter
          SentCommand.arrives).foldl (receiveCommand fun _ => ⟨"t", "p", "r"⟩) {})
        first second).length ≤ 1 := by
  intro holds
  have retried := htmlError_retried 500
  have reached : ∃ other ∈ (MutationHistory.run (failedThenSent (htmlError 500))).sent,
      other.arrives = true ∧ other.scope (fun _ => ⟨"t", "p", "r"⟩) =
        (retriedCommand (htmlError 500)).scope fun _ => ⟨"t", "p", "r"⟩ := by
    rw [failedThenSent_sent]
    exact ⟨_, List.mem_cons_of_mem _ (List.mem_cons_self ..), rfl, rfl⟩
  have kept := (heldCommands_iff _ (failedThenSent_fresh _) (List.Perm.refl _) retried rfl).mp
    (holds _ _ retried rfl) reached
  have given : isAmbiguous (failedCommand (htmlError 500)).fetched = false := by
    decide +kernel
  rw [given] at kept
  cases kept

end SupportGuard
