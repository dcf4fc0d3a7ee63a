import SupportGuard.Services.RuntimeHistory

/-! # Attempt budgets

Whatever leases, retries and fences a run goes through, its counters count the calls it
has reserved, and they stay within the budget. -/

namespace SupportGuard

open Foundation Program

/-! ## What the budgets depend on -/

/-- The reserved calls, each with its run, kind and ordinal, and what every run has
spent. -/
structure BudgetView where
  calls : List (String × CallKind × Nat)
  budgets : String → Option Budget

def AgentCallAttempt.call (attempt : AgentCallAttempt) : String × CallKind × Nat :=
  (attempt.runId, attempt.callKind, attempt.ordinal)

def Database.budgetView (database : Database) : BudgetView where
  calls := database.attempts.map AgentCallAttempt.call
  budgets runId := (Table.find AgentRun.id database.runs runId).map AgentRun.budget

/-- The ordinals of the calls of one kind that a run has reserved, in order. -/
def BudgetView.ordinals (view : BudgetView) (runId : String) (kind : CallKind) : List Nat :=
  (view.calls.filter fun call => call.1 = runId && call.2.1 = kind).map fun call => call.2.2

theorem ordinals_budgetView (database : Database) (runId : String) (kind : CallKind) :
    database.budgetView.ordinals runId kind =
      (database.attemptsOf runId kind).map AgentCallAttempt.ordinal := by
  simp only [BudgetView.ordinals, Database.budgetView, Database.attemptsOf, List.filter_map,
    List.map_map]
  rfl

variable {change : AgentRun → AgentRun}

theorem budgetView_updateRun (database : Database) (runId : String)
    (id : ∀ run, (change run).id = run.id) (budget : ∀ run, (change run).budget = run.budget) :
    (database.updateRun runId change).budgetView = database.budgetView := by
  have budgets : (database.updateRun runId change).budgetView.budgets =
      database.budgetView.budgets := by
    funext wanted
    simp only [Database.budgetView, Database.updateRun]
    rw [Table.find_update id, Option.map_map]
    congr 1
    funext run
    simp only [Function.comp_apply]
    split
    · exact budget run
    · rfl
  simp only [Database.budgetView] at budgets
  simp only [Database.budgetView, budgets]
  rfl

theorem aside_budgetView : Aside Database.budgetView where
  tickets _ _ _ _ := rfl
  runs database runId _ keeps := budgetView_updateRun database runId keeps.id keeps.budget
  attempts database change keeps := by
    have calls : (database.attempts.map change).map AgentCallAttempt.call =
        database.attempts.map AgentCallAttempt.call := by
      rw [List.map_map]
      apply List.map_congr_left
      intro attempt _
      simp only [Function.comp_apply, AgentCallAttempt.call, keeps.runId, keeps.callKind,
        keeps.ordinal]
    simp only [Database.budgetView, calls]
  events _ _ := rfl
  turns _ _ := rfl
  messages _ _ := rfl
  outbox _ _ := rfl
  approvals _ _ := rfl
  proposals _ _ := rfl
  markers _ _ := rfl
  transports _ _ := rfl
  turnGroups _ _ := rfl
  invocations _ _ := rfl
  observations _ _ := rfl

/-! ## The invariant -/

/-- What a run has spent on calls with the given ordinals. -/
structure Spent (ordinals : CallKind → List Nat) (budget : Budget) : Prop where
  llmCalls : budget.llmCalls =
    (ordinals .llm).length + (ordinals .structureRepair).length
  llmBound : budget.llmCalls ≤ maxLlmCalls
  toolAttempts : budget.toolAttempts =
    (ordinals .readMcp).length + (ordinals .toolPreflight).length
  toolBound : budget.toolAttempts ≤ maxToolAttempts
  toolRounds : budget.toolRounds ≤ maxToolRounds
  repairs : (ordinals .structureRepair).length ≤ 1
  numbered : ∀ kind, ordinals kind = List.range' 1 (ordinals kind).length

structure BudgetView.Sound (view : BudgetView) : Prop where
  known : ∀ call ∈ view.calls, (view.budgets call.1).isSome
  spent : ∀ runId budget, view.budgets runId = some budget →
    Spent (view.ordinals runId) budget

abbrev BudgetSound (database : Database) : Prop :=
  database.budgetView.Sound

def Budget.none : Budget where
  llmCalls := 0
  toolAttempts := 0
  toolRounds := 0

theorem spent_none {ordinals : CallKind → List Nat} (empty : ∀ kind, ordinals kind = []) :
    Spent ordinals Budget.none where
  llmCalls := by simp [Budget.none, empty]
  llmBound := by simp [Budget.none, maxLlmCalls]
  toolAttempts := by simp [Budget.none, empty]
  toolBound := by simp [Budget.none, maxToolAttempts]
  toolRounds := by simp [Budget.none, maxToolRounds]
  repairs := by simp [empty]
  numbered kind := by simp [empty]

theorem ordinals_eq_nil {view : BudgetView} (sound : view.Sound) {runId : String}
    (unknown : view.budgets runId = none) (kind : CallKind) :
    view.ordinals runId kind = [] := by
  simp only [BudgetView.ordinals, List.map_eq_nil_iff, List.filter_eq_nil_iff]
  intro call member matched
  have known := sound.known call member
  simp only [Bool.and_eq_true, decide_eq_true_eq] at matched
  rw [matched.1, unknown] at known
  cases known

/-- Set what a run has spent, in keeping with its calls. -/
theorem BudgetView.Sound.setBudget {view : BudgetView} (sound : view.Sound) {runId : String}
    {budget : Budget} (spent : Spent (view.ordinals runId) budget) :
    BudgetView.Sound
      { view with budgets := Function.update view.budgets runId (some budget) } := by
  constructor
  · intro call member
    dsimp only
    by_cases same : call.1 = runId
    · rw [same, Function.update_self]
      rfl
    · rw [Function.update_of_ne same]
      exact sound.known call member
  · intro wanted other found
    dsimp only at found
    by_cases same : wanted = runId
    · rw [same, Function.update_self, Option.some.injEq] at found
      rw [same, ← found]
      exact spent
    · rw [Function.update_of_ne same] at found
      exact sound.spent wanted other found

/-! ## Reserving -/

/-- One more call of the given kind. -/
def Budget.spend (budget : Budget) : CallKind → Budget
  | .llm | .structureRepair => { budget with llmCalls := budget.llmCalls + 1 }
  | .readMcp | .toolPreflight => { budget with toolAttempts := budget.toolAttempts + 1 }

/-- The budget has room for a call of the given kind. -/
def Budget.hasRoom (budget : Budget) : CallKind → Prop
  | .llm | .structureRepair => budget.llmCalls < maxLlmCalls
  | .readMcp | .toolPreflight => budget.toolAttempts < maxToolAttempts

/-- The next ordinal continues the numbering. -/
theorem numbered_append {ordinals : List Nat}
    (numbered : ordinals = List.range' 1 ordinals.length) :
    ordinals ++ [ordinals.max?.getD 0 + 1] =
      List.range' 1 (ordinals ++ [ordinals.max?.getD 0 + 1]).length := by
  have largest : ordinals.max?.getD 0 = ordinals.length := by
    generalize ordinals.length = count at numbered
    subst numbered
    cases count with
    | zero => rfl
    | succ count =>
        have top : (List.range' 1 (count + 1)).max? = some (count + 1) := by
          rw [List.max?_eq_some_iff]
          constructor
          · simp [List.mem_range'_1]
          · intro other member
            rw [List.mem_range'_1] at member
            omega
        rw [top]
        rfl
  rw [largest, List.length_append, List.length_singleton, List.range'_concat, ← numbered]
  simp [Nat.add_comm]

theorem Spent.spend {ordinals : CallKind → List Nat} {budget : Budget} {kind : CallKind}
    (spent : Spent ordinals budget) (room : budget.hasRoom kind)
    (once : kind = .structureRepair → ordinals .structureRepair = []) :
    Spent (Function.update ordinals kind
      (ordinals kind ++ [(ordinals kind).max?.getD 0 + 1])) (budget.spend kind) := by
  have numbered (other : CallKind) : Function.update ordinals kind
      (ordinals kind ++ [(ordinals kind).max?.getD 0 + 1]) other =
        List.range' 1 (Function.update ordinals kind
          (ordinals kind ++ [(ordinals kind).max?.getD 0 + 1]) other).length := by
    by_cases same : other = kind
    · rw [same, Function.update_self]
      exact numbered_append (spent.numbered kind)
    · rw [Function.update_of_ne same]
      exact spent.numbered other
  have llmCalls := spent.llmCalls
  have toolAttempts := spent.toolAttempts
  have llmBound := spent.llmBound
  have toolBound := spent.toolBound
  have repairs := spent.repairs
  cases kind with
  | llm =>
      refine ⟨?_, ?_, ?_, ?_, spent.toolRounds, ?_, numbered⟩ <;>
        simp [Budget.spend, Budget.hasRoom] at * <;> omega
  | structureRepair =>
      have unused := once rfl
      refine ⟨?_, ?_, ?_, ?_, spent.toolRounds, ?_, numbered⟩ <;>
        simp [Budget.spend, Budget.hasRoom, unused] at * <;> omega
  | readMcp =>
      refine ⟨?_, ?_, ?_, ?_, spent.toolRounds, ?_, numbered⟩ <;>
        simp [Budget.spend, Budget.hasRoom] at * <;> omega
  | toolPreflight =>
      refine ⟨?_, ?_, ?_, ?_, spent.toolRounds, ?_, numbered⟩ <;>
        simp [Budget.spend, Budget.hasRoom] at * <;> omega

/-- The view after one more call. -/
def BudgetView.reserve (view : BudgetView) (runId : String) (kind : CallKind)
    (budget : Budget) : BudgetView where
  calls := view.calls ++ [(runId, kind, (view.ordinals runId kind).max?.getD 0 + 1)]
  budgets := Function.update view.budgets runId (some (budget.spend kind))

theorem ordinals_reserve_self (view : BudgetView) (runId : String) (kind : CallKind)
    (budget : Budget) :
    (view.reserve runId kind budget).ordinals runId =
      Function.update (view.ordinals runId) kind
        (view.ordinals runId kind ++ [(view.ordinals runId kind).max?.getD 0 + 1]) := by
  funext other
  by_cases same : other = kind
  · rw [same, Function.update_self]
    simp [BudgetView.ordinals, BudgetView.reserve]
  · rw [Function.update_of_ne same]
    simp [BudgetView.ordinals, BudgetView.reserve, Ne.symm same]

theorem ordinals_reserve_of_ne (view : BudgetView) {runId other : String}
    (different : other ≠ runId) (kind : CallKind) (budget : Budget) :
    (view.reserve runId kind budget).ordinals other = view.ordinals other := by
  funext wanted
  simp [BudgetView.ordinals, BudgetView.reserve, different.symm]

theorem BudgetView.Sound.reserve {view : BudgetView} (sound : view.Sound) {runId : String}
    {budget : Budget} {kind : CallKind} (found : view.budgets runId = some budget)
    (room : budget.hasRoom kind)
    (once : kind = .structureRepair → view.ordinals runId .structureRepair = []) :
    (view.reserve runId kind budget).Sound := by
  constructor
  · intro call member
    show (Function.update view.budgets runId (some (budget.spend kind)) call.1).isSome
    by_cases same : call.1 = runId
    · rw [same, Function.update_self]
      rfl
    · rw [Function.update_of_ne same]
      rcases List.mem_append.mp member with old | new
      · exact sound.known call old
      · rw [List.mem_singleton.mp new] at same
        exact absurd rfl same
  · intro wanted spent foundSpent
    change Function.update view.budgets runId (some (budget.spend kind)) wanted = some spent
      at foundSpent
    by_cases same : wanted = runId
    · subst same
      rw [Function.update_self, Option.some.injEq] at foundSpent
      rw [ordinals_reserve_self, ← foundSpent]
      exact (sound.spent wanted budget found).spend room once
    · rw [Function.update_of_ne same] at foundSpent
      rw [ordinals_reserve_of_ne view same]
      exact sound.spent wanted spent foundSpent

/-! ## The calls that spend -/

/-- Set what a run that is there has spent. -/
theorem budgets_updateRun (database : Database) {runId : String} {run : AgentRun}
    (id : ∀ run, (change run).id = run.id)
    (found : Table.find AgentRun.id database.runs runId = some run) :
    (database.updateRun runId change).budgetView =
      { database.budgetView with
        budgets := Function.update database.budgetView.budgets runId
          (some (change run).budget) } := by
  have budgets : (database.updateRun runId change).budgetView.budgets =
      Function.update database.budgetView.budgets runId (some (change run).budget) := by
    funext wanted
    simp only [Database.budgetView, Database.updateRun]
    rw [Table.find_update id]
    by_cases same : wanted = runId
    · subst same
      rw [found, Function.update_self]
      simp
    · rw [Function.update_of_ne same]
      simp [same]
  simp only [Database.budgetView] at budgets
  simp only [Database.budgetView, budgets]
  rfl

def AgentRun.spend (run : AgentRun) : CallKind → AgentRun
  | .llm | .structureRepair => { run with llmCalls := run.llmCalls + 1 }
  | .readMcp | .toolPreflight => { run with toolAttempts := run.toolAttempts + 1 }

theorem budget_spend (run : AgentRun) (kind : CallKind) :
    (run.spend kind).budget = run.budget.spend kind := by
  cases kind <;> rfl

theorem id_spend (run : AgentRun) (kind : CallKind) : (run.spend kind).id = run.id := by
  cases kind <;> rfl

variable {before after : Database} {request : AttemptRequest} {lease : JobLease}

/-- What a call has been checked for once it is paid for. -/
theorem spend_returns {kind : CallKind} {run : AgentRun} {result : Unit}
    (returned : (spend lease kind request run).Returns before result after) :
    run.budget.hasRoom kind ∧
      (kind = .readMcp →
        request.logicalInvocationId.isSome ∧ request.transportOrdinal.isSome) ∧
      after = before.updateRun run.id fun row => row.spend kind := by
  have llm (returned : (spendLlmCall run).Returns before result after) :
      run.llmCalls < maxLlmCalls ∧ after = before.updateRun run.id fun row =>
        { row with llmCalls := row.llmCalls + 1 } := by
    simp only [spendLlmCall, returns_bind, returns_refuseWhen, returns_modify, and_assoc,
      exists_and_left, exists_eq_left, exists_const] at returned
    exact ⟨not_le.mp returned.1, returned.2⟩
  have tool (returned : (spendToolAttempt lease kind request run).Returns before result
      after) :
      run.toolAttempts < maxToolAttempts ∧
        (kind = .readMcp →
          request.logicalInvocationId.isSome ∧ request.transportOrdinal.isSome) ∧
        after = before.updateRun run.id fun row =>
          { row with toolAttempts := row.toolAttempts + 1 } := by
    simp only [spendToolAttempt, returns_bind, returns_reads, returns_require,
      returns_refuseWhen, returns_modify, and_assoc, exists_and_left, exists_eq_left,
      exists_const, id] at returned
    rcases returned with ⟨invocationId, given, invocation, _, _, positive, _, room, equal⟩
    refine ⟨not_le.mp room, ?_, equal⟩
    intro reads
    refine ⟨by rw [given]; rfl, ?_⟩
    cases ordinal : request.transportOrdinal with
    | none => exact absurd ⟨reads, by rw [ordinal]; rfl⟩ positive
    | some _ => rfl
  cases kind with
  | llm => exact ⟨(llm returned).1, CallKind.noConfusion, (llm returned).2⟩
  | structureRepair => exact ⟨(llm returned).1, CallKind.noConfusion, (llm returned).2⟩
  | readMcp => exact tool returned
  | toolPreflight => exact tool returned

theorem insertAttempt_returns {attempt : AgentCallAttempt} {result : Unit}
    (returned : (insertAttempt attempt).Returns before result after) :
    after = { before with attempts := before.attempts ++ [attempt] } := by
  simp only [insertAttempt, returns_bind, returns_reads, returns_refuseWhen,
    returns_modify, and_assoc, exists_and_left, exists_eq_left, exists_const, id] at returned
  exact returned.2.2

theorem recordAttempt_returns {kind : CallKind} {reserved : ReservedAttempt}
    (returned : (recordAttempt lease kind request).Returns before reserved after) :
    after.budgetView =
      { before.budgetView with
        calls := before.budgetView.calls ++
          [(lease.runId, kind, before.nextOrdinal lease.runId kind)] } := by
  simp only [recordAttempt, returns_bind, returns_reads, exists_and_left, exists_eq_left,
    and_assoc, id] at returned
  rcases returned with ⟨_, middle, inserted, returned⟩
  have recorded : middle.budgetView =
      { before.budgetView with
        calls := before.budgetView.calls ++
          [(lease.runId, kind, before.nextOrdinal lease.runId kind)] } := by
    rw [insertAttempt_returns inserted]
    simp only [Database.budgetView, List.map_append]
    rfl
  rw [← recorded]
  split at returned
  · simp only [returns_bind, returns_require, returns_pure, and_assoc, exists_and_left,
      exists_eq_left] at returned
    rcases returned with ⟨invocationId, _, ordinal, _, _, final, transported, _, equal⟩
    rw [equal]
    exact (aside_budgetView.insertTransport _).returns transported
  · rw [(returns_pure.mp returned).2]

theorem checkRepair_returns {result : Unit}
    (returned : (checkRepair lease request).Returns before result after) :
    before.attemptsOf lease.runId .structureRepair = [] ∧ after = before := by
  simp only [checkRepair, returns_bind, returns_reads, returns_require, returns_refuseWhen,
    and_assoc, exists_and_left, exists_eq_left, exists_const, id] at returned
  rcases returned with ⟨original, _, _, unused, equal⟩
  exact ⟨not_not.mp unused, equal⟩

theorem reserve_returns {reserved : ReservedAttempt}
    (returned : (reserve lease request).Returns before reserved after) :
    ∃ (run : AgentRun) (kind : CallKind),
      Table.find AgentRun.id before.runs lease.runId = some run ∧
      run.budget.hasRoom kind ∧
      (kind = .structureRepair → before.attemptsOf lease.runId .structureRepair = []) ∧
      after.budgetView = before.budgetView.reserve lease.runId kind run.budget := by
  simp only [reserve, returns_bind, assertFence_returns, returns_reads, returns_require,
    returns_refuseWhen, returns_onlyIf, and_assoc, exists_and_left, exists_eq_left,
    exists_const, id] at returned
  rcases returned with ⟨job, _, _, _, run, found, _, middle, checked, kind, named, _, paid,
    pays, records⟩
  rcases spend_returns pays with ⟨room, _, paidEqual⟩
  have runSame := (Table.find_mem found).2
  have repaired : (kind = .structureRepair →
      before.attemptsOf lease.runId .structureRepair = []) ∧ middle = before := by
    split at checked
    · rcases checkRepair_returns checked with ⟨unused, equal⟩
      exact ⟨fun _ => unused, equal⟩
    · rename_i other
      refine ⟨?_, checked⟩
      intro repair
      rw [named, repair] at other
      exact absurd rfl other
  refine ⟨run, kind, found, room, repaired.1, ?_⟩
  have ordinal : paid.nextOrdinal lease.runId kind =
      (before.budgetView.ordinals lease.runId kind).max?.getD 0 + 1 := by
    rw [ordinals_budgetView, paidEqual, repaired.2]
    rfl
  rw [recordAttempt_returns records, ordinal, paidEqual, repaired.2, runSame,
    budgets_updateRun before (fun row => id_spend row kind) found, budget_spend]
  rfl

theorem maintains_reserve (lease : JobLease) (request : AttemptRequest) :
    Maintains BudgetSound (reserve lease request) := by
  intro before reserved after returned sound
  rcases reserve_returns returned with ⟨run, kind, found, room, once, equal⟩
  show after.budgetView.Sound
  rw [equal]
  refine sound.reserve ?_ room ?_
  · show (Table.find AgentRun.id before.runs lease.runId).map _ = _
    rw [found]
    rfl
  · intro repair
    rw [ordinals_budgetView, once repair]
    rfl

theorem maintains_reserveToolRound (lease : JobLease) :
    Maintains BudgetSound (reserveToolRound lease) := by
  intro before rounds after returned sound
  simp only [reserveToolRound, returns_bind, assertFence_returns, returns_reads,
    returns_require, returns_refuseWhen, returns_modify, returns_pure, and_assoc,
    exists_and_left, exists_eq_left, exists_const, id] at returned
  rcases returned with ⟨job, _, run, found, room, _, equal⟩
  have runSame := (Table.find_mem found).2
  have budget : before.budgetView.budgets lease.runId = some run.budget := by
    show (Table.find AgentRun.id before.runs lease.runId).map _ = _
    rw [found]
    rfl
  have old := sound.spent lease.runId run.budget budget
  show after.budgetView.Sound
  rw [equal, runSame, budgets_updateRun before ?_ found]
  · refine sound.setBudget ⟨old.llmCalls, old.llmBound, old.toolAttempts, old.toolBound, ?_,
      old.repairs, old.numbered⟩
    show run.toolRounds + 1 ≤ maxToolRounds
    omega
  · exact fun _ => rfl

/-! ## Jobs -/

theorem keeps_dispatchJob (job : RuntimeJob) (ticket : SupportTicket) :
    Keeps Database.budgetView (dispatchJob job ticket) := by
  refine keeps_bind (keeps_modify fun _ => rfl) fun _ => ?_
  refine keeps_bind ?_ fun _ => keeps_pure _
  refine keeps_bind (keeps_reads _) fun _ => ?_
  exact keeps_bind (keeps_refuseWhen _ _) fun _ => keeps_modify fun _ => rfl

theorem keeps_create (request : JobRequest) :
    Keeps Database.budgetView (create request) := by
  refine keeps_bind (keeps_reads _) fun _ => ?_
  refine keeps_bind (keeps_require _ _) fun _ => ?_
  apply keeps_refuseWhen_bind
  apply keeps_refuseWhen_bind
  refine keeps_bind (keeps_require _ _) fun _ => ?_
  apply keeps_refuseWhen_bind
  apply keeps_refuseWhen_bind
  refine keeps_bind (keeps_require _ _) fun _ => ?_
  exact keeps_dispatchJob _ _

theorem claim_budgetView {jobId owner : String} {leaseSeconds : Int}
    (returned : (claim jobId owner leaseSeconds).Returns before lease after) :
    after.budgetView = before.budgetView := by
  rcases claim_returns returned with ⟨job, run, ticket, expiresAt, _, _, _, _, _, _, _, _,
    equal⟩
  rw [equal]
  show Database.budgetView (Database.updateRun (before.updateJob _ _) run.id _) = _
  rw [budgetView_updateRun]
  · rfl
  · exact fun _ => rfl
  · exact fun _ => rfl

theorem keeps_updateJob (jobId : String) (change : RuntimeJob → RuntimeJob) :
    Keeps Database.budgetView (modify fun database => database.updateJob jobId change :
      Program Database RuntimeRaise Unit) :=
  keeps_modify fun _ => rfl

theorem keeps_updateRun (runId : String) (id : ∀ run, (change run).id = run.id)
    (budget : ∀ run, (change run).budget = run.budget) :
    Keeps Database.budgetView (modify fun database => database.updateRun runId change :
      Program Database RuntimeRaise Unit) :=
  keeps_modify fun database => budgetView_updateRun database runId id budget

theorem keeps_heartbeat (lease : JobLease) (leaseSeconds : Int) :
    Keeps Database.budgetView (heartbeat lease leaseSeconds) := by
  refine keeps_bind (keeps_assertFence lease) fun _ => ?_
  refine keeps_bind (keeps_reads _) fun _ => ?_
  exact keeps_bind (keeps_require _ _) fun _ => keeps_modify fun _ => rfl

theorem keeps_complete (lease : JobLease) (outcome : String) :
    Keeps Database.budgetView (complete lease outcome) := by
  refine keeps_bind (keeps_assertFence lease) fun _ => ?_
  refine keeps_bind (keeps_reads _) fun _ => ?_
  refine keeps_bind (keeps_require _ _) fun run => ?_
  refine keeps_bind (keeps_modify fun _ => rfl) fun _ => keeps_modify fun database => ?_
  exact budgetView_updateRun database run.id (fun _ => rfl) fun _ => rfl

/-- A new run has spent nothing, and there are no calls under its name. -/
theorem maintains_insertRun {run : AgentRun} (unspent : run.budget = Budget.none) :
    Maintains BudgetSound (insertRun run) := by
  intro before result after returned sound
  simp only [insertRun, returns_bind, returns_reads, returns_refuseWhen, returns_modify,
    and_assoc, exists_and_left, exists_eq_left, exists_const, id] at returned
  rcases returned with ⟨used, equal⟩
  have fresh : Table.find AgentRun.id before.runs run.id = none := by
    rw [Table.find_eq_none]
    simpa using used
  have added : after.budgetView =
      { before.budgetView with
        budgets := Function.update before.budgetView.budgets run.id
          (some Budget.none) } := by
    have budgets : after.budgetView.budgets =
        Function.update before.budgetView.budgets run.id (some Budget.none) := by
      funext wanted
      simp only [Database.budgetView, find_insertRun equal fresh]
      by_cases same : wanted = run.id
      · subst same
        simp [unspent]
      · simp [same]
    simp only [Database.budgetView] at budgets
    simp only [Database.budgetView, budgets]
    rw [equal]
  show after.budgetView.Sound
  rw [added]
  refine sound.setBudget (spent_none (ordinals_eq_nil sound ?_))
  show (Table.find AgentRun.id before.runs run.id).map _ = none
  rw [fresh]
  rfl

section

variable (redactPii : PyText → PyText)

theorem maintains_appendEvent (request : EventRequest) :
    Maintains BudgetSound (mapError RuntimeRaise.event (appendEvent redactPii request)) := by
  intro before event after returned sound
  show after.budgetView.Sound
  rw [aside_budgetView.appendEvent (returns_mapError.mp returned)]
  exact sound

theorem maintains_createRun (draws : Draws) (ticket : SupportTicket)
    (turn : ConversationTurn) (model providerMode toolCallMode : String) :
    Maintains BudgetSound
      (createRun redactPii draws ticket turn model providerMode toolCallMode) := by
  refine maintains_bind ((keeps_reads _).maintains _) fun _ => ?_
  refine maintains_bind ((keeps_require _ _).maintains _) fun _ => ?_
  refine maintains_bind ((keeps_require _ _).maintains _) fun _ => ?_
  refine maintains_bind ((keeps_refuseWhen _ _).maintains _) fun _ => ?_
  split
  · exact (keeps_pure _).maintains _
  · refine maintains_bind (maintains_insertRun rfl) fun _ => ?_
    refine maintains_bind (maintains_appendEvent redactPii _) fun _ => ?_
    exact (keeps_pure _).maintains _

theorem maintains_activateNextTurn (draws : Draws) (ticket : SupportTicket)
    (traceId : String) :
    Maintains BudgetSound (activateNextTurn redactPii draws ticket traceId) := by
  refine maintains_bind ((keeps_reads _).maintains _) fun _ => ?_
  refine maintains_ite ((keeps_pure _).maintains _) ?_
  split
  · exact (keeps_pure _).maintains _
  · refine maintains_bind ((keeps_refuseWhen _ _).maintains _) fun _ => ?_
    refine maintains_bind (maintains_createRun redactPii _ _ _ _ _ _) fun _ => ?_
    refine maintains_bind ((aside_budgetView.bindTurn _ _).maintains _) fun _ => ?_
    refine maintains_bind ((keeps_dispatchJob _ _).maintains _) fun _ => ?_
    refine maintains_bind ((aside_budgetView.announceJob _ _ _ _).maintains _) fun _ => ?_
    exact (keeps_pure _).maintains _

theorem maintains_releaseTicket (draws : Draws) (job : RuntimeJob) (run : AgentRun) :
    Maintains BudgetSound (releaseTicket redactPii draws job run) := by
  refine maintains_bind ((keeps_reads _).maintains _) fun _ => ?_
  split
  · exact (keeps_pure _).maintains _
  · refine maintains_ite ?_ ((keeps_pure _).maintains _)
    refine maintains_bind (maintains_activateNextTurn redactPii _ _ _) fun _ => ?_
    refine maintains_bind ((keeps_reads _).maintains _) fun _ => ?_
    split
    · exact (keeps_pure _).maintains _
    · refine maintains_bind ((aside_budgetView.convergeTicket _ _).maintains _) fun _ => ?_
      exact (keeps_pure _).maintains _

theorem maintains_convergeDeadAggregates (draws : Draws) (job : RuntimeJob)
    (run : AgentRun) (reason : String) :
    Maintains BudgetSound (convergeDeadAggregates redactPii draws job run reason) := by
  have failed : Keeps Database.budgetView (failRun run reason) :=
    keeps_modify fun database =>
      budgetView_updateRun database run.id (fun _ => rfl) fun _ => rfl
  refine maintains_bind (failed.maintains _) fun _ => ?_
  refine maintains_bind ((aside_budgetView.failTurn run).maintains _) fun _ => ?_
  refine maintains_bind ((aside_budgetView.publishFailure draws job run).maintains _)
    fun _ => ?_
  refine maintains_bind ((aside_budgetView.failApproval job).maintains _) fun _ => ?_
  refine maintains_bind ((aside_budgetView.abortMarkers job).maintains _) fun _ => ?_
  exact maintains_releaseTicket redactPii draws job run

theorem maintains_fail (draws : Draws) (lease : JobLease) (errorCode : String)
    (maxAttempts maxAgeSeconds : Int) :
    Maintains BudgetSound
      (fail redactPii draws lease errorCode maxAttempts maxAgeSeconds) := by
  refine maintains_bind ((keeps_assertFence lease).maintains _) fun job => ?_
  refine maintains_bind ((keeps_reads _).maintains _) fun _ => ?_
  refine maintains_bind ((keeps_require _ _).maintains _) fun run => ?_
  refine maintains_bind ((keeps_ofExcept _).maintains _) fun _ => ?_
  refine maintains_bind ((keeps_updateJob _ _).maintains _) fun _ => ?_
  refine maintains_bind (Keeps.maintains (keeps_updateRun run.id ?_ ?_) _) fun _ => ?_
  · exact fun _ => rfl
  · exact fun _ => rfl
  refine maintains_bind ?_ fun _ => (keeps_pure _).maintains _
  exact maintains_ite (maintains_convergeDeadAggregates redactPii draws job run errorCode)
    ((keeps_pure _).maintains _)

theorem maintains_terminalFail (draws : Draws) (lease : JobLease) (errorCode : String) :
    Maintains BudgetSound (terminalFail redactPii draws lease errorCode) := by
  refine maintains_bind ((keeps_assertFence lease).maintains _) fun job => ?_
  refine maintains_bind ((keeps_reads _).maintains _) fun _ => ?_
  refine maintains_bind ((keeps_require _ _).maintains _) fun run => ?_
  refine maintains_bind ((keeps_updateJob _ _).maintains _) fun _ => ?_
  refine maintains_bind
    (maintains_convergeDeadAggregates redactPii draws job run errorCode) fun _ => ?_
  refine maintains_bind (Keeps.maintains (keeps_updateRun run.id ?_ ?_) _) fun _ => ?_
  · exact fun _ => rfl
  · exact fun _ => rfl
  exact (keeps_pure _).maintains _

end

/-! ## Histories -/

section

variable (surroundings : Surroundings)

theorem maintains_performCall (lease : JobLease) (call : FencedCall) :
    Maintains BudgetSound (performCall surroundings lease call) := by
  have forgotten {α : Type} {program : Program Database RuntimeRaise α}
      (maintains : Maintains BudgetSound program) :
      Maintains BudgetSound (forgetResult program) :=
    maintains_bind maintains fun _ => (keeps_pure ()).maintains _
  cases call with
  | heartbeat => exact (keeps_heartbeat _ _).maintains _
  | fail => exact forgotten (maintains_fail _ _ _ _ _ _)
  | terminalFail => exact forgotten (maintains_terminalFail _ _ _ _)
  | complete => exact (keeps_complete _ _).maintains _
  | reserve => exact forgotten (maintains_reserve _ _)
  | finish => exact (aside_budgetView.finish _ _ _).maintains _
  | reserveToolRound => exact forgotten (maintains_reserveToolRound _)
  | openTurn => exact forgotten ((aside_budgetView.openTurn _ _ _).maintains _)
  | markExecuting => exact forgotten ((aside_budgetView.calls.markExecuting _ _).maintains _)
  | terminalize =>
      exact forgotten ((aside_budgetView.calls.terminalize _ _ _ _ _ _).maintains _)
  | closeTurn => exact forgotten ((aside_budgetView.closeTurn _ _).maintains _)
  | takeover => exact forgotten ((aside_budgetView.takeover _ _).maintains _)
  | abortPending =>
      exact forgotten ((aside_budgetView.abortPending _ _ _ _ _ _ _).maintains _)

theorem budgetSound_next {history : History} (sound : BudgetSound history.database)
    (event : RuntimeEvent) : BudgetSound (history.next surroundings event).database := by
  cases event with
  | tick => exact sound
  | create request =>
      rcases atomically_cases (create request) history.database with
        ⟨job, final, returned, equal⟩ | ⟨error, equal⟩
      · simp only [History.next, equal]
        exact (keeps_create request).maintains _ returned sound
      · simpa only [History.next, equal] using sound
  | claim jobId owner leaseSeconds =>
      rcases atomically_cases (claim jobId owner leaseSeconds) history.database with
        ⟨lease, final, returned, equal⟩ | ⟨error, equal⟩
      · simp only [History.next, equal]
        show final.budgetView.Sound
        rw [claim_budgetView returned]
        exact sound
      · simpa only [History.next, equal] using sound
  | fenced lease call =>
      rcases atomically_cases (performCall surroundings lease call) history.database with
        ⟨result, final, returned, equal⟩ | ⟨error, equal⟩
      · simp only [History.next, equal]
        exact maintains_performCall surroundings lease call returned sound
      · simpa only [History.next, equal] using sound

theorem budgetSound_run {history : History} (sound : BudgetSound history.database)
    (events : List RuntimeEvent) :
    BudgetSound (history.run surroundings events).database := by
  induction events generalizing history with
  | nil => exact sound
  | cons event rest induction =>
      exact induction (budgetSound_next surroundings sound event)

/-! ## Refusals -/

/-- The exceptions a call refuses with, as opposed to those of the database. -/
def RuntimeRaise.isRefusal : RuntimeRaise → Bool
  | .runtimeConflict _ | .valueError _ => true
  | _ => false

theorem insertAttempt_raises {attempt : AgentCallAttempt} {before after : Database}
    {error : RuntimeRaise} (raised : (insertAttempt attempt).Raises before error after) :
    error.isRefusal = false := by
  simp only [insertAttempt, raises_bind, raises_reads, raises_refuseWhen, raises_modify,
    returns_reads, returns_refuseWhen, false_or, and_assoc, exists_and_left, exists_eq_left,
    exists_const, and_false, exists_false, or_false] at raised
  rcases raised with ⟨_, equal, _⟩ | ⟨_, _, equal, _⟩
  · rw [equal]
    rfl
  · rw [equal]
    rfl

theorem insertTransport_raises {transport : ToolTransportAttempt}
    {before after : Database} {error : RuntimeRaise}
    (raised : (insertTransport transport).Raises before error after) :
    error.isRefusal = false := by
  simp only [insertTransport, raises_bind, raises_reads, raises_refuseWhen, raises_modify,
    returns_reads, returns_refuseWhen, false_or, and_assoc, exists_and_left, exists_eq_left,
    exists_const, and_false, exists_false, or_false] at raised
  rcases raised with ⟨_, equal, _⟩ | ⟨_, ⟨_, equal, _⟩ | ⟨_, _, equal, _⟩⟩
  · rw [equal]
    rfl
  · rw [equal]
    rfl
  · rw [equal]
    rfl

/-- Recording a call that has been paid for fails on the database only. -/
theorem recordAttempt_raises {lease : JobLease} {kind : CallKind}
    {request : AttemptRequest} {before after : Database} {error : RuntimeRaise}
    (identified : kind = .readMcp →
      request.logicalInvocationId.isSome ∧ request.transportOrdinal.isSome)
    (raised : (recordAttempt lease kind request).Raises before error after) :
    error.isRefusal = false := by
  simp only [recordAttempt, raises_bind, raises_reads, returns_reads, false_or, and_assoc,
    exists_and_left, exists_eq_left] at raised
  rcases raised with inserting | ⟨_, middle, _, later⟩
  · exact insertAttempt_raises inserting
  · split at later
    · rename_i reads
      rcases identified reads with ⟨invocation, ordinal⟩
      rcases Option.isSome_iff_exists.mp invocation with ⟨invocationId, invocationGiven⟩
      rcases Option.isSome_iff_exists.mp ordinal with ⟨number, numberGiven⟩
      simp only [raises_bind, raises_require, returns_require, raises_pure, invocationGiven,
        numberGiven, reduceCtorEq, false_and, false_or, and_assoc, exists_and_left,
        Option.some.injEq, exists_eq_left', exists_eq_left, and_false, exists_false,
        or_false] at later
      exact insertTransport_raises later
    · exact absurd later raises_pure

/-- A call is refused before anything is spent. -/
theorem refusesCleanly_spend (lease : JobLease) (kind : CallKind)
    (request : AttemptRequest) (run : AgentRun) :
    RefusesCleanly Database.budgetView (RuntimeRaise.isRefusal · = true)
      (spend lease kind request run) := by
  have llm : RefusesCleanly Database.budgetView (RuntimeRaise.isRefusal · = true)
      (spendLlmCall run) :=
    refusesCleanly_bind (keeps_refuseWhen _ _) fun _ => refusesCleanly_modify _
  have tool : RefusesCleanly Database.budgetView (RuntimeRaise.isRefusal · = true)
      (spendToolAttempt lease kind request run) := by
    refine refusesCleanly_bind (keeps_reads _) fun _ => ?_
    refine refusesCleanly_bind (keeps_require _ _) fun _ => ?_
    refine refusesCleanly_bind (keeps_require _ _) fun _ => ?_
    refine refusesCleanly_bind (keeps_refuseWhen _ _) fun _ => ?_
    refine refusesCleanly_bind (keeps_refuseWhen _ _) fun _ => ?_
    refine refusesCleanly_bind (keeps_refuseWhen _ _) fun _ => ?_
    exact refusesCleanly_bind (keeps_refuseWhen _ _) fun _ => refusesCleanly_modify _
  cases kind with
  | llm => exact llm
  | structureRepair => exact llm
  | readMcp => exact tool
  | toolPreflight => exact tool

theorem refusesCleanly_reserve (lease : JobLease) (request : AttemptRequest) :
    RefusesCleanly Database.budgetView (RuntimeRaise.isRefusal · = true)
      (reserve lease request) := by
  refine refusesCleanly_bind (keeps_assertFence lease) fun _ => ?_
  refine refusesCleanly_bind (keeps_refuseWhen _ _) fun _ => ?_
  refine refusesCleanly_bind (keeps_refuseWhen _ _) fun _ => ?_
  refine refusesCleanly_bind (keeps_reads _) fun _ => ?_
  refine refusesCleanly_bind (keeps_require _ _) fun run => ?_
  refine refusesCleanly_bind (keeps_onlyIf _ (keeps_checkRepair lease request)) fun _ => ?_
  refine refusesCleanly_bind (keeps_require _ _) fun kind => ?_
  refine refusesCleanly_bind_last (refusesCleanly_spend lease kind request run) ?_
  intro initial result middle error final paid raised
  rw [recordAttempt_raises (spend_returns paid).2.1 raised]
  exact Bool.false_ne_true

theorem refusesCleanly_reserveToolRound (lease : JobLease) :
    RefusesCleanly Database.budgetView (RuntimeRaise.isRefusal · = true)
      (reserveToolRound lease) := by
  refine refusesCleanly_bind (keeps_assertFence lease) fun _ => ?_
  refine refusesCleanly_bind (keeps_reads _) fun _ => ?_
  refine refusesCleanly_bind (keeps_require _ _) fun _ => ?_
  refine refusesCleanly_bind (keeps_refuseWhen _ _) fun _ => ?_
  refine refusesCleanly_bind_last (refusesCleanly_modify _) ?_
  intro initial result middle error final _ raised
  exact absurd raised raises_pure

/-- The calls that account for attempts. -/
def FencedCall.accounts : FencedCall → Bool
  | .reserve _ | .finish _ _ | .reserveToolRound | .takeover _ => true
  | _ => false

theorem refusesCleanly_performCall (lease : JobLease) {call : FencedCall}
    (accounts : call.accounts = true) :
    RefusesCleanly Database.budgetView (RuntimeRaise.isRefusal · = true)
      (performCall surroundings lease call) := by
  have forgotten {α : Type} {program : Program Database RuntimeRaise α}
      (clean : RefusesCleanly Database.budgetView (RuntimeRaise.isRefusal · = true)
        program) :
      RefusesCleanly Database.budgetView (RuntimeRaise.isRefusal · = true)
        (forgetResult program) :=
    fun _ _ _ raised refused => clean (forgetResult_raises.mp raised) refused
  cases call with
  | reserve request => exact forgotten (refusesCleanly_reserve lease request)
  | finish reserved outcome =>
      exact (aside_budgetView.finish lease reserved outcome).refusesCleanly
  | reserveToolRound => exact forgotten (refusesCleanly_reserveToolRound lease)
  | takeover turnId => exact forgotten (aside_budgetView.takeover lease turnId).refusesCleanly
  | _ => cases accounts

/-! ## The budgets of a run -/

/-- The counters of a run count its attempts and are within the budget, it has repaired
at most once, and its attempts of each kind are numbered from one. -/
structure WithinBudget (database : Database) (run : AgentRun) : Prop where
  llmCalls : run.llmCalls = (database.attemptsOf run.id .llm).length +
    (database.attemptsOf run.id .structureRepair).length
  llmBound : run.llmCalls ≤ 6
  toolAttempts : run.toolAttempts = (database.attemptsOf run.id .readMcp).length +
    (database.attemptsOf run.id .toolPreflight).length
  toolBound : run.toolAttempts ≤ 6
  toolRounds : run.toolRounds ≤ 2
  repairs : (database.attemptsOf run.id .structureRepair).length ≤ 1
  numbered : ∀ kind, (database.attemptsOf run.id kind).map AgentCallAttempt.ordinal =
    List.range' 1 (database.attemptsOf run.id kind).length

theorem BudgetView.Sound.withinBudget {database : Database} (sound : BudgetSound database)
    {run : AgentRun} (found : Table.find AgentRun.id database.runs run.id = some run) :
    WithinBudget database run := by
  have budget : database.budgetView.budgets run.id = some run.budget := by
    show (Table.find AgentRun.id database.runs run.id).map _ = _
    rw [found]
    rfl
  have spent := sound.spent run.id run.budget budget
  have length (kind : CallKind) : (database.budgetView.ordinals run.id kind).length =
      (database.attemptsOf run.id kind).length := by
    rw [ordinals_budgetView, List.length_map]
  constructor
  case llmCalls => simpa only [length, AgentRun.budget] using spent.llmCalls
  case llmBound => exact spent.llmBound
  case toolAttempts => simpa only [length, AgentRun.budget] using spent.toolAttempts
  case toolBound => exact spent.toolBound
  case toolRounds => exact spent.toolRounds
  case repairs => simpa only [length] using spent.repairs
  case numbered =>
    intro kind
    rw [← ordinals_budgetView, ← length]
    exact spent.numbered kind

/-- From a database without attempts whose runs have spent nothing, every run stays
within its budget, and a call that is refused does not touch the budgets. -/
theorem attemptBudgets_hold (database : Database) (unused : database.attempts = [])
    (unspent : ∀ run ∈ database.runs,
      run.llmCalls = 0 ∧ run.toolAttempts = 0 ∧ run.toolRounds = 0)
    (events : List RuntimeEvent) :
    (∀ run, Table.find AgentRun.id
        (History.run surroundings { database } events).database.runs run.id = some run →
      WithinBudget (History.run surroundings { database } events).database run) ∧
      ∀ (lease : JobLease) (call : FencedCall) (error : RuntimeRaise)
        (before after : Database), call.accounts = true → error.isRefusal = true →
        performCall surroundings lease call before = (.error error, after) →
          after.budgetView = before.budgetView := by
  have start : BudgetSound database := by
    have none (runId : String) (kind : CallKind) :
        database.budgetView.ordinals runId kind = [] := by
      simp [BudgetView.ordinals, Database.budgetView, unused]
    constructor
    · intro call member
      simp [Database.budgetView, unused] at member
    · intro runId budget found
      rcases Option.map_eq_some_iff.mp found with ⟨run, runFound, rfl⟩
      rcases unspent run (Table.find_mem runFound).1 with ⟨llm, tool, rounds⟩
      have budget : run.budget = Budget.none := by
        simp only [AgentRun.budget, Budget.none, llm, tool, rounds]
      rw [budget]
      exact spent_none (none runId)
  constructor
  · intro run found
    exact (budgetSound_run surroundings start events).withinBudget found
  · intro lease call error before after accounts refused raised
    exact refusesCleanly_performCall surroundings lease accounts raised refused

end

def exampleReserve (attemptId : String) : RuntimeEvent :=
  .fenced firstLease (.reserve { kind := "llm", attemptId, transportId := "transport_1" })

/-- A job is claimed and calls the model twice. -/
def spendingEvents : List RuntimeEvent :=
  [exampleJob "job_1", .claim "job_1" "worker_a" 30, exampleReserve "attempt_1",
    exampleReserve "attempt_2"]

theorem attemptBudgets_hold_two_calls :
    (History.run exampleSurroundings { database := laneExample }
        spendingEvents).database.budgetView.calls =
        [("run_1", .llm, 1), ("run_1", .llm, 2)] ∧
      (∀ run, Table.find AgentRun.id
          (History.run exampleSurroundings { database := laneExample }
            spendingEvents).database.runs run.id = some run →
        WithinBudget
          (History.run exampleSurroundings { database := laneExample }
            spendingEvents).database run) ∧
      ∀ (lease : JobLease) (call : FencedCall) (error : RuntimeRaise)
        (before after : Database), call.accounts = true → error.isRefusal = true →
        performCall exampleSurroundings lease call before = (.error error, after) →
          after.budgetView = before.budgetView := by
  refine ⟨by decide +kernel, ?_⟩
  refine attemptBudgets_hold exampleSurroundings laneExample rfl ?_ spendingEvents
  intro run member
  rw [List.mem_singleton.mp member]
  exact ⟨rfl, rfl, rfl⟩

end SupportGuard
