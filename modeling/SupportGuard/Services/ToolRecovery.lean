import SupportGuard.Services.RuntimeHistory
import SupportGuard.Services.WriteSets

/-! # Recovery of the tool ledger

Workers crash and their turns are taken over, any number of times. Each invocation is
still observed once, and it is sent twice at most. -/

namespace SupportGuard

open Foundation Program

/-! ## The invariant -/

/-- What identifies a physical send. -/
def ToolTransportAttempt.send (transport : ToolTransportAttempt) : String × String × Int :=
  (transport.id, transport.invocationId, transport.transportOrdinal)

namespace Database

/-- The invocations that have an observation. -/
def observedIds (database : Database) : List String :=
  database.observations.map ToolObservation.invocationId

def observationsOf (database : Database) (invocationId : String) : List ToolObservation :=
  database.observations.filter fun row => row.invocationId = invocationId

/-- The physical sends of an invocation. -/
def sendsOf (database : Database) (invocationId : String) : List (String × String × Int) :=
  (database.transports.map ToolTransportAttempt.send).filter fun send =>
    send.2.1 = invocationId

end Database

structure LedgerSound (database : Database) : Prop where
  ids : (database.invocations.map ToolInvocation.id).Nodup
  single : database.observedIds.Nodup
  observed : ∀ invocation ∈ database.invocations,
    invocation.lifecycle = .terminal ↔ invocation.id ∈ database.observedIds
  known : ∀ invocationId ∈ database.observedIds,
    invocationId ∈ database.invocations.map ToolInvocation.id
  numbered : ((database.transports.map ToolTransportAttempt.send).map Prod.snd).Nodup
  bounded : ∀ send ∈ database.transports.map ToolTransportAttempt.send,
    send.2.2 = 1 ∨ send.2.2 = 2

/-- Observations stay, and what is observed is not sent again. -/
structure LedgerGrows (before after : Database) : Prop where
  observations : before.observations <+: after.observations
  sends : ∀ invocationId ∈ before.observedIds,
    after.sendsOf invocationId = before.sendsOf invocationId

/-- A change that keeps the invariant and only adds to the ledger. -/
def LedgerStep (before after : Database) : Prop :=
  LedgerSound before → LedgerSound after ∧ LedgerGrows before after

theorem LedgerGrows.refl (database : Database) : LedgerGrows database database :=
  ⟨List.prefix_rfl, fun _ _ => rfl⟩

variable {before after : Database}

theorem LedgerGrows.observedIds (grows : LedgerGrows before after) :
    before.observedIds <+: after.observedIds :=
  grows.observations.map _

theorem LedgerGrows.trans {first second third : Database} (early : LedgerGrows first second)
    (late : LedgerGrows second third) : LedgerGrows first third where
  observations := early.observations.trans late.observations
  sends invocationId observed :=
    (late.sends invocationId (early.observedIds.subset observed)).trans
      (early.sends invocationId observed)

instance : Std.Refl LedgerStep :=
  ⟨fun database sound => ⟨sound, .refl database⟩⟩

instance : IsTrans Database LedgerStep where
  trans _ _ _ early late sound := by
    rcases early sound with ⟨middleSound, earlyGrows⟩
    rcases late middleSound with ⟨finalSound, lateGrows⟩
    exact ⟨finalSound, earlyGrows.trans lateGrows⟩

/-! ## Steps -/

/-- The ledger does not see what changes nothing about invocations, observations and
sends. -/
theorem ledgerStep_of_same (invocations : after.invocations = before.invocations)
    (observations : after.observations = before.observations)
    (transports : after.transports.map ToolTransportAttempt.send =
      before.transports.map ToolTransportAttempt.send) : LedgerStep before after := by
  intro sound
  have observedIds : after.observedIds = before.observedIds := by
    rw [Database.observedIds, observations]
    rfl
  refine ⟨?_, ?_⟩
  · constructor
    · rw [invocations]
      exact sound.ids
    · rw [observedIds]
      exact sound.single
    · rw [invocations, observedIds]
      exact sound.observed
    · rw [invocations, observedIds]
      exact sound.known
    · rw [transports]
      exact sound.numbered
    · rw [transports]
      exact sound.bounded
  · constructor
    · exact observations ▸ List.prefix_rfl
    · intro invocationId _
      rw [Database.sendsOf, transports]
      rfl

theorem WritesOnly.ledgerStep {ε α : Type} {tables : List DatabaseTable}
    {program : Program Database ε α} (writes : WritesOnly tables program)
    (outside : .invocations ∉ tables ∧ .observations ∉ tables ∧ .transports ∉ tables) :
    Relates LedgerStep program := by
  intro before result after returned
  apply ledgerStep_of_same
  · exact writes.returns returned .invocations outside.1
  · exact writes.returns returned .observations outside.2.1
  · rw [show after.transports = before.transports from
      writes.returns returned .transports outside.2.2]

/-- Change pending invocations into pending invocations. -/
theorem ledgerStep_pending {before : Database} {change : ToolInvocation → ToolInvocation}
    (id : ∀ invocation, (change invocation).id = invocation.id)
    (pending : ∀ invocation ∈ before.invocations,
      (change invocation).lifecycle = .terminal ↔ invocation.lifecycle = .terminal) :
    LedgerStep before { before with invocations := before.invocations.map change } := by
  intro sound
  have ids : (before.invocations.map change).map ToolInvocation.id =
      before.invocations.map ToolInvocation.id := by
    rw [List.map_map]
    exact List.map_congr_left fun invocation _ => id invocation
  refine ⟨⟨?_, sound.single, ?_, ?_, sound.numbered, sound.bounded⟩, ⟨List.prefix_rfl,
    fun _ _ => rfl⟩⟩
  · rw [ids]
    exact sound.ids
  · intro invocation member
    rcases List.mem_map.mp member with ⟨old, oldMember, rfl⟩
    rw [id old]
    exact (pending old oldMember).trans (sound.observed old oldMember)
  · rw [ids]
    exact sound.known

theorem relates_insertInvocation {invocation : ToolInvocation}
    (pending : invocation.lifecycle ≠ .terminal) :
    Relates LedgerStep (insertInvocation invocation) := by
  intro before result after returned
  simp only [insertInvocation, returns_bind, returns_reads, returns_refuseWhen,
    returns_modify, and_assoc, exists_and_left, exists_eq_left, exists_const, id]
    at returned
  rcases returned with ⟨fresh, _, rfl⟩
  intro sound
  have new : invocation.id ∉ before.invocations.map ToolInvocation.id := by
    simpa using fresh
  refine ⟨⟨?_, sound.single, ?_, ?_, sound.numbered, sound.bounded⟩, ⟨List.prefix_rfl,
    fun _ _ => rfl⟩⟩
  · rw [List.map_append, List.nodup_append]
    refine ⟨sound.ids, List.nodup_singleton _, ?_⟩
    intro old oldMember added addedMember equal
    rw [List.map_singleton, List.mem_singleton] at addedMember
    exact new (addedMember ▸ equal ▸ oldMember)
  · intro row member
    rcases List.mem_append.mp member with old | added
    · exact sound.observed row old
    · rw [List.mem_singleton] at added
      subst added
      constructor
      · intro terminal
        exact absurd terminal pending
      · intro observed
        exact absurd (sound.known _ observed) new
  · intro invocationId observed
    rw [List.map_append]
    exact List.mem_append_left _ (sound.known invocationId observed)

theorem relates_insertInvocations {invocations : List ToolInvocation}
    (pending : ∀ invocation ∈ invocations, invocation.lifecycle ≠ .terminal) :
    Relates LedgerStep (insertInvocations invocations) := by
  induction invocations with
  | nil => exact relates_pure ()
  | cons invocation rest induction =>
      apply relates_bind (relates_insertInvocation (pending _ List.mem_cons_self))
      intro _
      exact induction fun row member => pending row (List.mem_cons_of_mem _ member)

variable {lease : JobLease}

theorem buildInvocation_pending {request : TurnRequest} {call : InvocationSpec}
    {invocation : ToolInvocation} (built : buildInvocation lease request call = .ok invocation) :
    invocation.lifecycle ≠ .terminal := by
  unfold buildInvocation at built
  dsimp only at built
  split at built
  · rcases Fallible.bind_eq_ok_iff.mp built with ⟨argumentsHash, _, equal⟩
    cases equal
    simp
  · cases built
    simp

theorem buildInvocations_pending {request : TurnRequest} {calls : List InvocationSpec}
    {invocations : List ToolInvocation}
    (built : buildInvocations lease request calls = .ok invocations) :
    ∀ invocation ∈ invocations, invocation.lifecycle ≠ .terminal := by
  induction calls generalizing invocations with
  | nil =>
      cases built
      simp
  | cons call rest induction =>
      rcases Fallible.bind_eq_ok_iff.mp built with ⟨first, builtFirst, remaining⟩
      rcases Fallible.bind_eq_ok_iff.mp remaining with ⟨others, builtOthers, equal⟩
      cases equal
      intro invocation member
      rcases List.mem_cons.mp member with rfl | later
      · exact buildInvocation_pending builtFirst
      · exact induction builtOthers invocation later

theorem relates_openTurn (registryHash : String) (lease : JobLease) (request : TurnRequest) :
    Relates LedgerStep (openTurn registryHash lease request) := by
  intro before result after returned
  simp only [openTurn, insertTurnGroup, assertFence, returns_bind, returns_reads,
    returns_require, returns_refuseWhen, returns_modify, returns_ofExcept, returns_pure,
    and_assoc, exists_and_left, exists_eq_left, exists_const, id] at returned
  rcases returned with ⟨_, _, _, _, decisionHash, _, contextHash, _, _, _, invocations,
    built, _, middle, inserted, _, rfl⟩
  refine IsTrans.trans _ _ _ ?_
    (relates_insertInvocations (buildInvocations_pending built) inserted)
  exact ledgerStep_of_same rfl rfl rfl

theorem relates_markExecuting (lease : JobLease) (invocationId : String) :
    Relates LedgerStep (markExecuting lease invocationId) := by
  intro before result after returned
  simp only [markExecuting, returns_bind, returns_reads, returns_require,
    returns_refuseWhen, returns_modify, returns_pure, assertFence, and_assoc,
    exists_and_left, exists_eq_left, exists_const, id] at returned
  rcases returned with ⟨_, _, invocation, found, allowed, _, rfl⟩
  rcases Table.find_mem found with ⟨member, _⟩
  intro sound
  refine (ledgerStep_pending ?_ ?_) sound
  · intro row
    split
    · rfl
    · rfl
  · intro row rowMember
    split
    · rename_i same
      have equal := List.inj_on_of_nodup_map sound.ids rowMember member same
      subst equal
      constructor
      · intro terminal
        cases terminal
      · intro terminal
        rw [terminal] at allowed
        exact absurd (Or.inr (by decide)) allowed
    · rfl

/-- Insert the observation of a pending invocation and make it terminal. -/
theorem ledgerStep_observe {before : Database} {invocation : ToolInvocation}
    {observation : ToolObservation} {outcome : String}
    (member : invocation ∈ before.invocations)
    (same : observation.invocationId = invocation.id)
    (unobserved : observation.invocationId ∉ before.observedIds) :
    LedgerStep before
      (Database.updateInvocation
        { before with observations := before.observations ++ [observation] } invocation.id
        fun row => { row with lifecycle := .terminal, outcome := some outcome }) := by
  intro sound
  have observedIds : ∀ wanted,
      wanted ∈ (before.observations ++ [observation]).map ToolObservation.invocationId ↔
        wanted ∈ before.observedIds ∨ wanted = invocation.id := by
    intro wanted
    simp [Database.observedIds, same]
  have ids : (Table.update ToolInvocation.id invocation.id
      (fun row => { row with lifecycle := .terminal, outcome := some outcome })
      before.invocations).map ToolInvocation.id =
        before.invocations.map ToolInvocation.id := by
    apply Table.map_update
    intro row
    rfl
  refine ⟨⟨?_, ?_, ?_, ?_, sound.numbered, sound.bounded⟩, ⟨List.prefix_append _ _,
    fun _ _ => rfl⟩⟩
  · exact ids.symm ▸ sound.ids
  · show ((before.observations ++ [observation]).map ToolObservation.invocationId).Nodup
    rw [List.map_append, List.nodup_append]
    refine ⟨sound.single, List.nodup_singleton _, ?_⟩
    intro old oldMember added addedMember equal
    rw [List.map_singleton, List.mem_singleton] at addedMember
    exact unobserved (addedMember ▸ equal ▸ oldMember)
  · intro row rowMember
    rcases Table.mem_update.mp rowMember with ⟨old, other⟩ | ⟨old, oldMember, key, rfl⟩
    · refine (sound.observed row old).trans (Iff.trans ?_ (observedIds row.id).symm)
      simp [other]
    · refine Iff.trans ?_ (observedIds _).symm
      simp [key]
  · intro wanted observed
    have known : wanted ∈ before.invocations.map ToolInvocation.id := by
      rcases (observedIds wanted).mp observed with old | rfl
      · exact sound.known wanted old
      · exact List.mem_map_of_mem member
    exact ids.symm ▸ known

theorem relates_terminalize (lease : JobLease) (invocationId outcome : String)
    (observation : Observation) (trustedRetrievalIntent : Option PyValue)
    (observationId : String) :
    Relates LedgerStep (terminalize lease invocationId outcome observation
      trustedRetrievalIntent observationId) := by
  intro before result after returned
  simp only [terminalize, returns_bind, returns_reads, returns_require,
    returns_refuseWhen, returns_ofExcept, assertFence, and_assoc, exists_and_left,
    exists_eq_left, exists_const, id] at returned
  rcases returned with ⟨_, _, invocation, found, _, payload, _, content, _, rest⟩
  rcases Table.find_mem found with ⟨member, _⟩
  split at rest
  · simp only [returns_bind, returns_refuseWhen, returns_pure, and_assoc, exists_and_left,
      exists_eq_left, exists_const] at rest
    rw [rest.2.2]
    exact Std.Refl.refl before
  · simp only [insertObservation, returns_bind, returns_reads, returns_refuseWhen,
      returns_modify, returns_pure, and_assoc, exists_and_left, exists_eq_left,
      exists_const, id] at rest
    rcases rest with ⟨_, _, unobserved, _, rfl⟩
    refine ledgerStep_observe member rfl ?_
    simpa [Database.observedIds] using unobserved

theorem relates_closeTurn (lease : JobLease) (turnId : String) :
    Relates LedgerStep (closeTurn lease turnId) := by
  intro before result after returned
  simp only [closeTurn, assertFence, returns_bind, returns_reads, returns_require,
    returns_refuseWhen, returns_modify, returns_pure, and_assoc, exists_and_left,
    exists_eq_left, exists_const, id] at returned
  rcases returned with ⟨_, _, turn, _, _, _, _, rfl⟩
  exact ledgerStep_of_same rfl rfl rfl

theorem overtakeAttempts_sends (attemptIds : List String) (database : Database) :
    (overtakeAttempts attemptIds database).transports.map ToolTransportAttempt.send =
      database.transports.map ToolTransportAttempt.send := by
  simp only [overtakeAttempts, List.map_map]
  apply List.map_congr_left
  intro transport _
  simp only [Function.comp_apply]
  split
  · rfl
  · rfl

theorem ledgerStep_refence (lease : JobLease) (turnId : String) (database : Database) :
    LedgerStep database (refenceInvocations lease turnId database) := by
  apply ledgerStep_pending
  · intro invocation
    split
    · rfl
    · rfl
  · intro invocation _
    split
    · rename_i pending
      constructor
      · intro terminal
        dsimp only at terminal
        split at terminal
        · cases terminal
        · exact terminal
      · intro terminal
        exact absurd terminal pending.2
    · rfl

theorem relates_takeover (lease : JobLease) (turnId : String) :
    Relates LedgerStep (takeover lease turnId) := by
  intro before result after returned
  simp only [takeover, assertFence, returns_bind, returns_reads, returns_require,
    returns_refuseWhen, returns_modify, returns_pure, and_assoc, exists_and_left,
    exists_eq_left, exists_const, id] at returned
  rcases returned with ⟨_, _, turn, _, _, _, _, _, rfl⟩
  refine IsTrans.trans _ (refenceInvocations lease turn.id (overtakeAttempts _ before)) _ ?_
    (ledgerStep_of_same rfl rfl rfl)
  refine IsTrans.trans _ _ _ ?_ (ledgerStep_refence lease turn.id _)
  exact ledgerStep_of_same rfl rfl (overtakeAttempts_sends _ before)

theorem relates_abortInvocations (dumpAborted : AbortedCall → List (PyKey × PyValue))
    (lease : JobLease) (ticketId reason : String) (now : Instant) (draw : String → String)
    (invocations : List ToolInvocation) :
    Relates LedgerStep
      (abortInvocations dumpAborted lease ticketId reason now draw invocations) := by
  induction invocations with
  | nil => exact relates_pure ()
  | cons invocation rest induction =>
      refine relates_bind ?_ fun _ => induction
      refine relates_ite ?_ (relates_pure ())
      refine relates_bind (keeps_reads _).relates fun database => ?_
      refine relates_bind (relates_terminalize _ _ _ _ _ _) fun _ => ?_
      exact relates_pure ()

theorem relates_abortPending (dumpAborted : AbortedCall → List (PyKey × PyValue))
    (lease : JobLease) (turnId ticketId reason : String) (now : Instant)
    (draw : String → String) :
    Relates LedgerStep
      (abortPending dumpAborted lease turnId ticketId reason now draw) := by
  intro before result after returned
  simp only [abortPending, assertFence, returns_bind, returns_reads, returns_require,
    returns_refuseWhen, returns_modify, returns_pure, and_assoc, exists_and_left,
    exists_eq_left, exists_const, id] at returned
  rcases returned with ⟨_, _, turn, _, _, _, middle, aborted, _, rfl⟩
  refine IsTrans.trans _ _ _
    (relates_abortInvocations dumpAborted lease ticketId reason now draw _ aborted) ?_
  exact ledgerStep_of_same rfl rfl rfl

/-! ## Sends -/

theorem finish_sends {reserved : ReservedAttempt} {outcome : AttemptOutcome} {result : Unit}
    (returned : (finish lease reserved outcome).Returns before result after) :
    after.transports.map ToolTransportAttempt.send =
      before.transports.map ToolTransportAttempt.send := by
  have keeps : Keeps (fun database : Database =>
      database.transports.map ToolTransportAttempt.send) (finish lease reserved outcome) := by
    refine keeps_bind (keeps_assertFence lease) fun _ => ?_
    refine keeps_bind (keeps_reads _) fun _ => ?_
    refine keeps_bind (keeps_require _ _) fun _ => ?_
    apply keeps_refuseWhen_bind
    refine keeps_bind (keeps_require _ _) fun _ => ?_
    refine keeps_bind (keeps_whenSome _ (keeps_checkErrorPaths _ _)) fun _ => ?_
    refine keeps_bind (keeps_modify fun _ => rfl) fun _ => ?_
    refine keeps_bind (keeps_whenSome _ (keeps_checkTransportAttempts _)) fun _ => ?_
    refine keeps_whenSome _ fun transportId => ?_
    refine keeps_bind (keeps_reads _) fun _ => ?_
    refine keeps_bind (keeps_require _ _) fun transport => ?_
    apply keeps_refuseWhen_bind
    refine keeps_bind (keeps_modify fun database => ?_) fun _ => ?_
    · simp only [Database.updateTransport, Table.update, List.map_map]
      apply List.map_congr_left
      intro row _
      simp only [Function.comp_apply]
      split
      · rfl
      · rfl
    · exact keeps_whenSome _ (keeps_checkLifecycle _ _)
  exact keeps.returns returned

/-- What a reservation that returned has added: a send only for a read, and that of a
pending invocation. -/
theorem reserve_sends {request : AttemptRequest} {reserved : ReservedAttempt}
    (returned : (reserve lease request).Returns before reserved after) :
    (CallKind.ofText? request.kind ≠ some .readMcp ∧ after.transports = before.transports) ∨
      CallKind.ofText? request.kind = some .readMcp ∧
        ∃ invocation ∈ before.invocations, ∃ ordinal transport,
        request.logicalInvocationId = some invocation.id ∧
        request.transportOrdinal = some ordinal ∧
        invocation.lifecycle ≠ .terminal ∧
        transport.invocationId = invocation.id ∧ transport.transportOrdinal = ordinal ∧
        (before.transports.any fun other => other.invocationId = transport.invocationId &&
          other.transportOrdinal = transport.transportOrdinal) = false ∧
        after.transports = before.transports ++ [transport] := by
  simp only [reserve, assertFence, returns_bind, returns_reads, returns_require,
    returns_refuseWhen, and_assoc, exists_and_left, exists_eq_left, exists_const, id]
    at returned
  rcases returned with ⟨_, _, _, _, run, _, _, repaired, checked, kind, named, _, spent,
    spending, recorded⟩
  have unrepaired : repaired = before := by
    have keeps : Keeps (fun database => database)
        (onlyIf (CallKind.ofText? request.kind = some .structureRepair)
          (checkRepair lease request)) :=
      keeps_onlyIf _ (keeps_checkRepair lease request)
    exact keeps.returns checked
  subst unrepaired
  have transports : spent.transports = repaired.transports :=
    (writesOnly_spend lease kind request run).returns spending .transports (by decide)
  have invocations : spent.invocations = repaired.invocations :=
    (writesOnly_spend lease kind request run).returns spending .invocations (by decide)
  simp only [recordAttempt, returns_bind, returns_reads, and_assoc, exists_and_left,
    exists_eq_left, id] at recorded
  rcases recorded with ⟨_, attempted, inserted, rest⟩
  have unsent : attempted.transports = spent.transports :=
    (writesOnly_insertAttempt _).returns inserted .transports (by decide)
  split at rest
  · rename_i isRead
    subst isRead
    simp only [returns_bind, returns_require, insertTransport, returns_reads,
      returns_refuseWhen, returns_modify, returns_pure, and_assoc, exists_and_left,
      exists_eq_left, exists_const, id] at rest
    rcases rest with ⟨invocationId, logical, ordinal, numbered, _, _, new, _, rfl⟩
    simp only [spend, spendToolAttempt, returns_bind, returns_reads, returns_require,
      returns_refuseWhen, and_assoc, exists_and_left, exists_eq_left, exists_const, id]
      at spending
    rcases spending with ⟨wanted, equal, invocation, found, allowed, _⟩
    rw [logical] at equal
    cases equal
    rcases Table.find_mem found with ⟨member, key⟩
    subst key
    refine .inr ⟨named, invocation, member, ordinal, ?_⟩
    rw [← transports, ← unsent]
    refine ⟨_, logical, numbered, ?_, ?_, ?_, ?_, rfl⟩
    · intro terminal
      exact allowed (.inr (.inr (.inr terminal)))
    · rfl
    · rfl
    · simpa using new
  · rename_i other
    refine .inl ⟨?_, ?_⟩
    · rw [named]
      intro equal
      exact other (Option.some.inj equal)
    · rw [(returns_pure.mp rest).2, unsent, transports]

/-- Record a send that is new and numbered one or two, of an invocation without an
observation. -/
theorem ledgerStep_send {transport : ToolTransportAttempt}
    (invocations : after.invocations = before.invocations)
    (observations : after.observations = before.observations)
    (added : after.transports = before.transports ++ [transport])
    (bounded : transport.transportOrdinal = 1 ∨ transport.transportOrdinal = 2)
    (new : ∀ other ∈ before.transports, other.invocationId = transport.invocationId →
      other.transportOrdinal ≠ transport.transportOrdinal)
    (unobserved : LedgerSound before → transport.invocationId ∉ before.observedIds) :
    LedgerStep before after := by
  intro sound
  have observedIds : after.observedIds = before.observedIds := by
    rw [Database.observedIds, observations]
    rfl
  have sends : after.transports.map ToolTransportAttempt.send =
      before.transports.map ToolTransportAttempt.send ++ [transport.send] := by
    rw [added, List.map_append, List.map_singleton]
  refine ⟨?_, ?_⟩
  · constructor
    · rw [invocations]
      exact sound.ids
    · rw [observedIds]
      exact sound.single
    · rw [invocations, observedIds]
      exact sound.observed
    · rw [invocations, observedIds]
      exact sound.known
    · rw [sends, List.map_append, List.nodup_append]
      refine ⟨sound.numbered, List.nodup_singleton _, ?_⟩
      intro old oldMember last lastMember equal
      rw [List.map_singleton, List.mem_singleton] at lastMember
      rcases List.mem_map.mp oldMember with ⟨send, sendMember, rfl⟩
      rcases List.mem_map.mp sendMember with ⟨other, otherMember, rfl⟩
      rw [lastMember] at equal
      exact new other otherMember (congrArg Prod.fst equal) (congrArg Prod.snd equal)
    · rw [sends]
      intro send member
      rcases List.mem_append.mp member with old | last
      · exact sound.bounded send old
      · rw [List.mem_singleton.mp last]
        exact bounded
  · constructor
    · exact observations ▸ List.prefix_rfl
    · intro invocationId observed
      rw [Database.sendsOf, sends, List.filter_append, List.filter_singleton]
      have other : transport.invocationId ≠ invocationId := by
        intro same
        exact unobserved sound (same ▸ observed)
      simp [ToolTransportAttempt.send, Database.sendsOf, other]

/-- A reservation whose transport ordinal is one or two. -/
theorem relates_reserve {request : AttemptRequest}
    (bounded : CallKind.ofText? request.kind = some .readMcp →
      request.transportOrdinal = some 1 ∨ request.transportOrdinal = some 2) :
    Relates LedgerStep (reserve lease request) := by
  intro before reserved after returned
  have invocations : after.invocations = before.invocations :=
    (writesOnly_reserve lease request).returns returned .invocations (by decide)
  have observations : after.observations = before.observations :=
    (writesOnly_reserve lease request).returns returned .observations (by decide)
  rcases reserve_sends returned with ⟨_, same⟩ |
    ⟨isRead, invocation, member, ordinal, transport, _, numbered, pending, identity, position, new,
      added⟩
  · exact ledgerStep_of_same invocations observations (by rw [same])
  · have read := bounded isRead
    rw [numbered] at read
    apply ledgerStep_send invocations observations added
    · rw [position]
      exact read.imp Option.some.inj Option.some.inj
    · simpa using new
    · intro sound observed
      rw [identity] at observed
      exact pending ((sound.observed invocation member).mpr observed)

/-! ## Histories

A worker asks for the number of a send before it reserves it, and it retries a send of
its own once. When it crashes its lease expires, and its job can be claimed again. -/

/-- What `reconcile_once` does first with a job whose lease has expired at its own
time. -/
def requeueExpired (jobId : String) (now : Instant) : Program Database RuntimeRaise Unit := do
  let database ← reads id
  whenSome (Table.find RuntimeJob.id database.jobs jobId) fun job =>
    onlyIf (job.status = .leased ∧ job.leaseExpiresAt.any (· < now) ∧
        database.laneHead? job.tenantId job.ticketId = some job.dispatchSequence)
      (modify fun database => database.updateJob job.id fun row => row.release .queued)

/-- Does the event reserve a read on its own? -/
def RuntimeEvent.reservesRead : RuntimeEvent → Bool
  | .fenced _ (.reserve request) => CallKind.ofText? request.kind = some .readMcp
  | _ => false

inductive LedgerEvent
  | runtime (event : RuntimeEvent) (quiet : event.reservesRead = false)
  | requeueExpired (jobId : String) (now : Instant)
  | nextTransportOrdinal (lease : JobLease) (invocationId : String)
  | reserveRead (lease : JobLease) (invocationId : String) (transportOrdinal : Int)
      (attemptId transportId : String)
  | replayTerminalObservation (lease : JobLease) (invocationId : String)
      (request : ReplayRequest)

/-- A history of the runtime, and the numbers that were handed out for sends. -/
structure Recovery where
  history : History
  granted : List (String × Int) := []

namespace Recovery

/-- A worker reserves a number that it was given, or the one after it as its retry. -/
def Allows (recovery : Recovery) (invocationId : String) (ordinal : Int) : Prop :=
  (invocationId, ordinal) ∈ recovery.granted ∨
    (invocationId, ordinal - 1) ∈ recovery.granted ∧ ordinal - 1 < 2

instance (recovery : Recovery) (invocationId : String) (ordinal : Int) :
    Decidable (recovery.Allows invocationId ordinal) :=
  inferInstanceAs (Decidable (_ ∨ _))

def within (recovery : Recovery) {α : Type} (program : Program Database RuntimeRaise α) :
    Recovery :=
  { recovery with
    history :=
      { recovery.history with
        database := (atomically program recovery.history.database).2 } }

section

variable (surroundings : Surroundings)
variable (validateEnvelope : Json → Option ObservationEnvelope)

def next (recovery : Recovery) : LedgerEvent → Recovery
  | .runtime event _ =>
      { recovery with history := recovery.history.next surroundings event }
  | .requeueExpired jobId now => recovery.within (requeueExpired jobId now)
  | .nextTransportOrdinal lease invocationId =>
      match nextTransportOrdinal lease invocationId recovery.history.database with
      | (.ok (some ordinal), _) =>
          { recovery with granted := (invocationId, ordinal) :: recovery.granted }
      | _ => recovery
  | .reserveRead lease invocationId transportOrdinal attemptId transportId =>
      if recovery.Allows invocationId transportOrdinal then
        recovery.within (reserve lease
          { kind := "read_mcp"
            logicalInvocationId := some invocationId
            transportOrdinal := some transportOrdinal
            attemptId
            transportId })
      else recovery
  | .replayTerminalObservation lease invocationId request =>
      recovery.within
        (replayTerminalObservation validateEnvelope lease invocationId request)

def run (recovery : Recovery) (events : List LedgerEvent) : Recovery :=
  events.foldl (next surroundings validateEnvelope) recovery

end

end Recovery

/-! ## Every event steps the ledger -/

section

variable (surroundings : Surroundings)
variable (validateEnvelope : Json → Option ObservationEnvelope)

theorem relates_performCall {lease : JobLease} {call : FencedCall}
    (quiet : (RuntimeEvent.fenced lease call).reservesRead = false) :
    Relates LedgerStep (performCall surroundings lease call) := by
  cases call with
  | heartbeat => exact (writesOnly_heartbeat _ _).ledgerStep (by decide)
  | fail => exact relates_forgetResult ((writesOnly_fail _ _ _ _ _ _).ledgerStep (by decide))
  | terminalFail =>
      exact relates_forgetResult ((writesOnly_terminalFail _ _ _ _).ledgerStep (by decide))
  | complete => exact (writesOnly_complete _ _).ledgerStep (by decide)
  | reserve request =>
      apply relates_forgetResult
      apply relates_reserve
      intro isRead
      simp [RuntimeEvent.reservesRead, isRead] at quiet
  | finish reserved outcome =>
      intro before result after returned
      apply ledgerStep_of_same
      · exact (writesOnly_finish lease reserved outcome).returns returned .invocations
          (by decide)
      · exact (writesOnly_finish lease reserved outcome).returns returned .observations
          (by decide)
      · exact finish_sends returned
  | reserveToolRound =>
      exact relates_forgetResult ((writesOnly_reserveToolRound _).ledgerStep (by decide))
  | openTurn => exact relates_forgetResult (relates_openTurn _ _ _)
  | markExecuting => exact relates_forgetResult (relates_markExecuting _ _)
  | terminalize => exact relates_forgetResult (relates_terminalize _ _ _ _ _ _)
  | closeTurn => exact relates_forgetResult (relates_closeTurn _ _)
  | takeover => exact relates_forgetResult (relates_takeover _ _)
  | abortPending => exact relates_forgetResult (relates_abortPending _ _ _ _ _ _ _)

/-- A transaction steps the ledger when its body does. -/
theorem ledgerStep_atomically {α : Type} {program : Program Database RuntimeRaise α}
    (relates : Relates LedgerStep program) (database : Database) :
    LedgerStep database (atomically program database).2 := by
  rcases atomically_cases program database with ⟨value, final, returned, equal⟩ |
    ⟨error, equal⟩
  · rw [equal]
    exact relates returned
  · rw [equal]
    exact Std.Refl.refl database

theorem History.next_ledgerStep (history : History) {event : RuntimeEvent}
    (quiet : event.reservesRead = false) :
    LedgerStep history.database (history.next surroundings event).database := by
  cases event with
  | tick later => exact ledgerStep_of_same rfl rfl rfl
  | create request =>
      exact ledgerStep_atomically ((writesOnly_create request).ledgerStep (by decide)) _
  | claim jobId owner leaseSeconds =>
      have step := ledgerStep_atomically
        ((writesOnly_claim jobId owner leaseSeconds).ledgerStep (by decide)) history.database
      rcases atomically_cases (claim jobId owner leaseSeconds) history.database with
        ⟨lease, final, _, equal⟩ | ⟨error, equal⟩
      · simp only [History.next, equal]
        rw [equal] at step
        exact step
      · simp only [History.next, equal]
        exact Std.Refl.refl history.database
  | fenced lease call =>
      exact ledgerStep_atomically (relates_performCall surroundings quiet) _

theorem relates_requeueExpired (jobId : String) (now : Instant) :
    Relates LedgerStep (requeueExpired jobId now) := by
  refine relates_bind (keeps_reads _).relates fun database => ?_
  cases Table.find RuntimeJob.id database.jobs jobId with
  | none => exact relates_pure ()
  | some job =>
      apply relates_ite
      · apply relates_modify
        intro state
        exact ledgerStep_of_same rfl rfl rfl
      · exact relates_pure ()

/-- The numbers handed out for sends are one and two. -/
def Recovery.Numbered (recovery : Recovery) : Prop :=
  ∀ grant ∈ recovery.granted, grant.2 = 1 ∨ grant.2 = 2

theorem nextTransportOrdinal_returns {lease : JobLease} {invocationId : String}
    {database final : Database} {ordinal : Int} (sound : LedgerSound database)
    (returned : (nextTransportOrdinal lease invocationId).Returns database (some ordinal)
      final) : ordinal = 1 ∨ ordinal = 2 := by
  simp only [nextTransportOrdinal, assertFence, returns_bind, returns_reads,
    returns_require, returns_refuseWhen, returns_pure, and_assoc, exists_and_left,
    exists_eq_left, exists_const, id] at returned
  rcases returned with ⟨_, _, invocation, _, _, equal, _⟩
  split at equal
  · rename_i below
    cases equal
    cases largest : ((database.transports.filter fun transport =>
        transport.invocationId = invocation.id).map
          ToolTransportAttempt.transportOrdinal).max? with
    | none => simp
    | some current =>
        rw [largest] at below
        have member := List.max?_mem largest
        rcases List.mem_map.mp member with ⟨transport, kept, rfl⟩
        have numbered := sound.bounded transport.send
          (List.mem_map_of_mem (List.mem_filter.mp kept).1)
        simp only [ToolTransportAttempt.send, Option.getD_some] at numbered below ⊢
        omega
  · cases equal

/-- What the ledger promises of every state it reaches. -/
structure LedgerSafe (database : Database) : Prop where
  single : ∀ invocationId, (database.observationsOf invocationId).length ≤ 1
  observed : ∀ invocation ∈ database.invocations,
    invocation.lifecycle = .terminal ↔ database.observationsOf invocation.id ≠ []
  sends : ∀ invocationId, (database.sendsOf invocationId).length ≤ 2
  complete : ∀ lease turnId turn after, (closeTurn lease turnId).Returns database turn after →
    (database.invocationsOf turnId).length = turn.expectedInvocations ∧
      ∀ invocation ∈ database.invocationsOf turnId,
        (database.observationsOf invocation.id).length = 1

/-- What the ledger promises between a state and a later one. -/
structure LedgerKept (before after : Database) : Prop where
  observations : ∀ observation ∈ before.observations,
    after.observationsOf observation.invocationId =
      before.observationsOf observation.invocationId
  sends : ∀ invocation ∈ before.invocations, invocation.lifecycle = .terminal →
    after.sendsOf invocation.id = before.sendsOf invocation.id

theorem sendsOf_length_le {database : Database} (sound : LedgerSound database)
    (invocationId : String) : (database.sendsOf invocationId).length ≤ 2 := by
  have distinct : ((database.sendsOf invocationId).map Prod.snd).Nodup :=
    sound.numbered.sublist (List.filter_sublist.map Prod.snd)
  have numbers : (database.sendsOf invocationId).map Prod.snd ⊆
      [(invocationId, 1), (invocationId, 2)] := by
    intro numbered member
    rcases List.mem_map.mp member with ⟨send, kept, rfl⟩
    rcases List.mem_filter.mp kept with ⟨sendMember, same⟩
    have same : send.2.1 = invocationId := by simpa using same
    rcases sound.bounded send sendMember with first | second
    · exact List.mem_cons.mpr (.inl (Prod.ext same first))
    · exact List.mem_cons_of_mem _ (List.mem_singleton.mpr (Prod.ext same second))
  simpa using (distinct.subperm numbers).length_le

/-- Counts of one at most have as many rows in an outer join as there are counts, and add
up to no more. -/
theorem joined_length {counts : List Nat} (bounded : ∀ count ∈ counts, count ≤ 1) :
    (counts.map fun count => max 1 count).sum = counts.length ∧
      counts.sum ≤ counts.length := by
  induction counts with
  | nil => simp
  | cons first rest induction =>
      have below := induction fun count member => bounded count (List.mem_cons_of_mem _ member)
      have firstBounded := bounded first List.mem_cons_self
      simp only [List.map_cons, List.sum_cons, List.length_cons]
      omega

theorem counts_eq_one {counts : List Nat} (bounded : ∀ count ∈ counts, count ≤ 1)
    (full : counts.sum = counts.length) : ∀ count ∈ counts, count = 1 := by
  induction counts with
  | nil => simp
  | cons first rest induction =>
      have firstBounded := bounded first List.mem_cons_self
      have restBounded : ∀ count ∈ rest, count ≤ 1 :=
        fun count member => bounded count (List.mem_cons_of_mem _ member)
      have below := (joined_length restBounded).2
      simp only [List.sum_cons, List.length_cons] at full
      intro count member
      rcases List.mem_cons.mp member with rfl | later
      · omega
      · exact induction restBounded (by omega) count later

theorem closeTurn_complete {database after : Database} {lease : JobLease} {turnId : String}
    {turn : TurnGroup} (sound : LedgerSound database)
    (returned : (closeTurn lease turnId).Returns database turn after) :
    (database.invocationsOf turnId).length = turn.expectedInvocations ∧
      ∀ invocation ∈ database.invocationsOf turnId,
        (database.observationsOf invocation.id).length = 1 := by
  simp only [closeTurn, assertFence, returns_bind, returns_reads, returns_require,
    returns_refuseWhen, returns_modify, returns_pure, and_assoc, exists_and_left,
    exists_eq_left, exists_const, id, not_not] at returned
  rcases returned with ⟨_, _, group, found, _, counted, opened, _⟩
  rcases Table.find_mem found with ⟨_, rfl⟩
  have bounded : ∀ count ∈ (database.invocations.filter fun row =>
      row.turnGroupId = group.id).map fun row =>
        (database.observationsOf row.id).length, count ≤ 1 := by
    intro count member
    rcases List.mem_map.mp member with ⟨row, _, rfl⟩
    exact Table.filter_key_length_le sound.single row.id
  have rows : (_ : Nat) = group.expectedInvocations := congrArg Prod.fst counted
  have observations : (_ : Nat) = group.expectedInvocations := congrArg Prod.snd counted
  have length := (joined_length bounded).1.symm.trans rows
  refine ⟨?_, ?_⟩
  · rw [Database.invocationsOf, List.length_insertionSort, opened]
    rw [List.length_map] at length
    exact length
  · have ones := counts_eq_one bounded (observations.trans length.symm)
    intro invocation member
    rw [Database.invocationsOf, List.mem_insertionSort] at member
    exact ones _ (List.mem_map_of_mem member)

theorem LedgerSound.safe {database : Database} (sound : LedgerSound database) :
    LedgerSafe database where
  single invocationId := Table.filter_key_length_le sound.single invocationId
  observed invocation member := by
    rw [sound.observed invocation member]
    simp [Database.observedIds, Database.observationsOf]
  sends invocationId := sendsOf_length_le sound invocationId
  complete _ _ _ _ returned := closeTurn_complete sound returned

theorem LedgerGrows.kept {before after : Database} (grows : LedgerGrows before after)
    (sound : LedgerSound before) (later : LedgerSound after) : LedgerKept before after where
  observations _ member := Table.filter_key_of_prefix grows.observations later.single member
  sends invocation member terminal :=
    grows.sends invocation.id ((sound.observed invocation member).mp terminal)

/-- What holds between the states of a recovery. -/
def Recovery.Step (before after : Recovery) : Prop :=
  before.Numbered → LedgerSound before.history.database →
    after.Numbered ∧ LedgerSound after.history.database ∧
      LedgerGrows before.history.database after.history.database

theorem Recovery.Allows.bounded {recovery : Recovery} {invocationId : String}
    {ordinal : Int} (allowed : recovery.Allows invocationId ordinal)
    (numbered : recovery.Numbered) : ordinal = 1 ∨ ordinal = 2 := by
  rcases allowed with given | ⟨given, below⟩
  · exact numbered _ given
  · have previous := numbered _ given
    simp only at previous
    omega

theorem keeps_replayTerminalObservation (lease : JobLease) (invocationId : String)
    (request : ReplayRequest) :
    Keeps (fun database : Database => database)
      (replayTerminalObservation validateEnvelope lease invocationId request) := by
  refine keeps_bind (keeps_assertFence lease) fun _ => ?_
  refine keeps_bind (keeps_reads _) fun _ => ?_
  refine keeps_bind (keeps_require _ _) fun _ => ?_
  refine keeps_bind (keeps_require _ _) fun _ => ?_
  apply keeps_refuseWhen_bind
  apply keeps_ite
  · exact keeps_bind (keeps_refuseWhen _ _) fun _ => keeps_pure _
  · refine keeps_bind (keeps_require _ _) fun _ => ?_
    refine keeps_bind (keeps_require _ _) fun _ => ?_
    refine keeps_bind (keeps_ofExcept _) fun _ => ?_
    exact keeps_bind (keeps_refuseWhen _ _) fun _ => keeps_pure _

theorem Recovery.next_step (recovery : Recovery) (event : LedgerEvent) :
    Recovery.Step recovery (recovery.next surroundings validateEnvelope event) := by
  intro numbered sound
  have unchanged : recovery.Numbered ∧ LedgerSound recovery.history.database ∧
      LedgerGrows recovery.history.database recovery.history.database :=
    ⟨numbered, sound, .refl _⟩
  cases event with
  | runtime event quiet =>
      exact ⟨numbered, recovery.history.next_ledgerStep surroundings quiet sound⟩
  | requeueExpired jobId now =>
      exact ⟨numbered, ledgerStep_atomically (relates_requeueExpired jobId now) _ sound⟩
  | nextTransportOrdinal lease invocationId =>
      simp only [Recovery.next]
      split
      · rename_i ordinal final ran
        refine ⟨?_, sound, .refl _⟩
        intro grant member
        rcases List.mem_cons.mp member with rfl | earlier
        · exact nextTransportOrdinal_returns sound ran
        · exact numbered grant earlier
      · exact unchanged
  | reserveRead lease invocationId ordinal attemptId transportId =>
      simp only [Recovery.next]
      split
      · rename_i allowed
        refine ⟨numbered, ledgerStep_atomically (relates_reserve ?_) _ sound⟩
        intro _
        exact (allowed.bounded numbered).imp (congrArg some) (congrArg some)
      · exact unchanged
  | replayTerminalObservation lease invocationId request =>
      have keeps := keeps_replayTerminalObservation validateEnvelope lease invocationId request
      exact ⟨numbered, ledgerStep_atomically keeps.relates _ sound⟩

theorem Recovery.run_step (recovery : Recovery) (events : List LedgerEvent) :
    Recovery.Step recovery (recovery.run surroundings validateEnvelope events) := by
  induction events generalizing recovery with
  | nil =>
      intro numbered sound
      exact ⟨numbered, sound, .refl _⟩
  | cons event rest induction =>
      intro numbered sound
      rcases recovery.next_step surroundings validateEnvelope event numbered sound with
        ⟨middleNumbered, middleSound, early⟩
      rcases induction (recovery.next surroundings validateEnvelope event) middleNumbered
        middleSound with ⟨lastNumbered, lastSound, late⟩
      exact ⟨lastNumbered, lastSound, early.trans late⟩

/-- From a database without tool calls, every history of workers and takeovers keeps the
ledger safe, and what was observed stays as it is. -/
theorem toolLedger_recovers (database : Database) (invocations : database.invocations = [])
    (observations : database.observations = []) (transports : database.transports = [])
    (events more : List LedgerEvent) :
    LedgerSafe (Recovery.run surroundings validateEnvelope { history := { database } }
        events).history.database ∧
      LedgerKept
        (Recovery.run surroundings validateEnvelope { history := { database } }
          events).history.database
        ((Recovery.run surroundings validateEnvelope { history := { database } } events).run
          surroundings validateEnvelope more).history.database := by
  have start : LedgerSound database := by
    constructor <;> simp [Database.observedIds, invocations, observations, transports]
  have none : Recovery.Numbered { history := { database } } := by
    intro grant member
    cases member
  rcases Recovery.run_step surroundings validateEnvelope _ events none start with
    ⟨numbered, sound, _⟩
  rcases Recovery.run_step surroundings validateEnvelope _ more numbered sound with
    ⟨_, later, grows⟩
  exact ⟨sound.safe, grows.kept sound later⟩

end

/-- The first worker sends the call of a turn and crashes; the second one takes the turn
over, sends the call once more and records what it observed. -/
def takeoverEvents : List LedgerEvent :=
  let secondLease : JobLease := 
    { firstLease with
      owner := "worker_b"
      fencingToken := 2
      expiresAt := ⟨90000000, Instant.minuteAndHalf_inRange⟩ }
  [.runtime (exampleJob "job_1") rfl,
    .runtime (.claim "job_1" "worker_a" 30) rfl,
    .runtime (.fenced firstLease (.openTurn
      { segmentId := "segment"
        toolRound := 1
        decision := .dict []
        contextManifest := .dict []
        visibleToolSchemaHash := some (String.ofList (List.replicate 64 '0'))
        calls :=
          [{ providerToolCallId := "call"
             toolName := "get_billing"
             arguments := .dict []
             ordinal := 0
             invocationId := "invocation"
             logicalId := "logical" }]
        turnId := "turn" })) rfl,
    .nextTransportOrdinal firstLease "invocation",
    .reserveRead firstLease "invocation" 1 "attempt_1" "transport_1",
    .runtime (.fenced firstLease (.markExecuting "invocation")) rfl,
    .runtime (.tick ⟨60000000, Instant.minute_inRange⟩) rfl,
    .requeueExpired "job_1" ⟨60000000, Instant.minute_inRange⟩,
    .runtime (.claim "job_1" "worker_b" 30) rfl,
    .runtime (.fenced secondLease (.takeover "turn")) rfl,
    .nextTransportOrdinal secondLease "invocation",
    .reserveRead secondLease "invocation" 2 "attempt_2" "transport_2",
    .runtime (.fenced secondLease (.terminalize "invocation" "succeeded"
      { toolName := "get_billing", status := "ok", attemptIndex := 2, dump := [] } none
      "observation")) rfl]

def takenOver : Recovery :=
  Recovery.run exampleSurroundings (fun _ => none) { history := { database := laneExample } }
    takeoverEvents

/-- The call was sent twice and observed once, whatever the first worker tries again. -/
theorem toolLedger_recovers_takeover :
    takenOver.history.database.transports.length = 2 ∧
      takenOver.history.database.observations.length = 1 ∧
      LedgerSafe takenOver.history.database ∧
      LedgerKept takenOver.history.database (takenOver.run exampleSurroundings (fun _ => none)
        [.runtime (.fenced firstLease (.takeover "turn")) rfl]).history.database := by
  have sent : takenOver.history.database.transports.length = 2 := by decide +kernel
  have observed : takenOver.history.database.observations.length = 1 := by decide +kernel
  have kept := toolLedger_recovers exampleSurroundings (fun _ => none) laneExample rfl rfl rfl
    takeoverEvents [.runtime (.fenced firstLease (.takeover "turn")) rfl]
  exact ⟨sent, observed, kept⟩

end SupportGuard
