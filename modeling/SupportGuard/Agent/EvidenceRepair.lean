import SupportGuard.Agent.EvidenceDecision

/-! # Repeated reads

`agent/evidence.py`: a read that is no longer fresh speaks against a decision on its own, also
where a later read of its group is fresh. A repeated read never repairs it. -/

namespace SupportGuard

open Foundation Fallible

section

variable {contracts : AssemblerContracts} {request : EvidenceRequest}
  {observation : EvidenceObservation}

/-- `str(observation.get("observation_id") or tool_call_id)`. -/
def observationIdentity (contracts : AssemblerContracts) (observation : EvidenceObservation) :
    String :=
  if (observation.members.value "observation_id").truthy then
    contracts.str (observation.members.value "observation_id")
  else textOrEmpty contracts (observation.members.value "tool_call_id")

/-- A successful read of the run and its scope, by the tool of a required group that is
satisfied without it, under an identity of its own, and not fresh now. -/
structure RepeatedRead (contracts : AssemblerContracts) (request : EvidenceRequest)
    (observation : EvidenceObservation) : Prop where
  outdated : ∃ group ∈ request.requirements.requiredGroups,
    isSatisfied contracts request group = true ∧
      isOutdated contracts request group observation = true
  identity : ∀ other ∈ request.observations,
    observationIdentity contracts other ≠ observationIdentity contracts observation

/-- The reasons that an outdated read leaves behind. -/
def outdatedReasons : List String :=
  [ObservationRefusal.notFresh.reason, ObservationRefusal.identityIncomplete.reason]

/-- An outdated read is refused, and not as one of another scope or of a failed call. -/
theorem freshScopedObservation_of_outdated {group : EvidenceGroup}
    (outdated : isOutdated contracts request group observation = true) :
    freshScopedObservation contracts request observation = .error .notFresh ∨
      freshScopedObservation contracts request observation = .error .identityIncomplete := by
  simp only [isOutdated, Bool.and_eq_true] at outdated
  rcases outdated with ⟨⟨⟨_, successful⟩, scope⟩, stale⟩
  by_cases named :
      (observation.members.value "freshness_status").pyEq (.string "fresh") = true
  · rw [named, Bool.not_true, Bool.false_or] at stale
    simp only [freshScopedObservation, refuseWhen_bind, scope, successful, named,
      Bool.true_eq_false, if_false]
    cases seen : evidenceTime contracts observation.observedAt with
    | none => exact .inr rfl
    | some observedAt =>
        cases until_ : evidenceTime contracts observation.freshUntil with
        | none => exact .inr rfl
        | some freshUntil =>
            simp only [seen, until_, Bool.not_eq_true'] at stale
            simp only [stale, if_true]
            generalize (if (observation.members.value "observation_id").truthy = true then
              contracts.str (observation.members.value "observation_id") else textOrEmpty
                contracts (observation.members.value "tool_call_id")) = observationId
            split
            · exact .inr rfl
            · exact .inl rfl
  · rw [Bool.not_eq_true] at named
    simp only [freshScopedObservation, refuseWhen_bind, scope, successful, named,
      Bool.true_eq_false, if_false, if_true]
    exact .inl trivial

theorem projectionReason_of_outdated {group : EvidenceGroup}
    (outdated : isOutdated contracts request group observation = true) :
    ∃ reason ∈ outdatedReasons, projectionReason contracts request observation = some reason := by
  unfold projectionReason
  rcases freshScopedObservation_of_outdated outdated with refused | refused
  · rw [refused]
    exact ⟨_, List.mem_cons_self, rfl⟩
  · rw [refused]
    exact ⟨_, List.mem_cons_of_mem _ List.mem_cons_self, rfl⟩

/-- Where one of the observations is outdated, the decision does not accept. -/
theorem insufficientReasons_of_outdated {group : EvidenceGroup}
    (member : observation ∈ request.observations)
    (outdated : isOutdated contracts request group observation = true) :
    ∃ reason ∈ outdatedReasons, reason ∈ insufficientReasons contracts request := by
  rcases projectionReason_of_outdated outdated with ⟨reason, known, found⟩
  refine ⟨reason, known, ?_⟩
  rw [insufficientReasons, Grouping.mem_distinct]
  simp only [List.append_assoc, observationReasons]
  apply List.mem_append_left
  exact List.mem_filterMap.mpr ⟨observation, member, found⟩

/-- A read that is no longer fresh takes the acceptance away, whatever else was read. -/
theorem decideEvidence_repeatedRead (texts : ∀ text, contracts.str (.string text) = text)
    {decision : EvidenceDecision} (decided : decideEvidence contracts request = some decision)
    (_ : decision.result = .accept) (repeated : RepeatedRead contracts request observation)
    {observations : List EvidenceObservation}
    (added : observations.Perm (observation :: request.observations)) :
    ∃ decision', decideEvidence contracts { request with observations } = some decision' ∧
      decision'.result ≠ .accept ∧
      ∃ reason ∈ outdatedReasons, reason ∈ decision'.insufficientReasons := by
  rcases repeated.outdated with ⟨group, _, _, outdated⟩
  have valid : (evidenceFields contracts request).Valid := by
    unfold decideEvidence at decided
    split at decided
    · assumption
    · cases decided
  rcases valid.identities with ⟨run, tenant, customer, attempt⟩
  have valid' : (evidenceFields contracts { request with observations }).Valid :=
    evidenceFields_valid texts run tenant customer attempt
  have member : observation ∈ observations := added.symm.subset List.mem_cons_self
  rcases @insufficientReasons_of_outdated contracts { request with observations } observation
    group member outdated with ⟨reason, known, given⟩
  refine ⟨_, if_pos valid', ?_, reason, known, given⟩
  intro accept
  have sufficient : isSufficient contracts { request with observations } = true := by
    have same := valid'.accepted
    rw [accept] at same
    exact same
  rw [isSufficient_iff.mp sufficient] at given
  cases given

end

/-! An account that reads knowledge twice. -/

/-- A read with an identity of its own, observed at `observedAt` and fresh until `freshUntil`. -/
def timedObservation (identity : String) (observedAt freshUntil : Instant) :
    EvidenceObservation where
  members := ("observation_id", .string identity) ::
    (sampleObservation "search_knowledge" "article").members
  observedAt := .datetime ⟨observedAt, none⟩
  freshUntil := .datetime ⟨freshUntil, none⟩

def laterRead : EvidenceObservation :=
  timedObservation "later" ⟨2, by decide⟩ ⟨4, by decide⟩

def earlierRead : EvidenceObservation :=
  timedObservation "earlier" ⟨0, Instant.first_inRange⟩ ⟨1, by decide⟩

/-- A request with one read, decided while it is fresh. -/
def rereadRequest : EvidenceRequest :=
  { sampleRequest "article" "run" with
    observations := [laterRead]
    now := ⟨3, by decide⟩ }

theorem rereadRequest_accepted :
    decideEvidence plainContracts rereadRequest =
        some (evidenceFields plainContracts rereadRequest) ∧
      (evidenceFields plainContracts rereadRequest).result = .accept := by
  constructor
  · apply if_pos
    decide +kernel
  · decide +kernel

theorem earlierRead_repeated : RepeatedRead plainContracts rereadRequest earlierRead where
  outdated := ⟨.knowledge, by decide +kernel⟩
  identity := by
    intro other member
    rw [List.mem_singleton.mp member]
    decide +kernel

theorem decideEvidence_repeatedRead_sample :
    ∃ decision, decideEvidence plainContracts
        { rereadRequest with observations := [earlierRead, laterRead] } = some decision ∧
      decision.result ≠ .accept ∧ ∃ reason ∈ outdatedReasons,
        reason ∈ decision.insufficientReasons :=
  decideEvidence_repeatedRead (fun _ => rfl) rereadRequest_accepted.1 rereadRequest_accepted.2
    earlierRead_repeated (List.Perm.refl _)

/-- The earlier read takes back what the later one alone has. -/
theorem decideEvidence_unrepaired :
    (∃ decision, decideEvidence plainContracts rereadRequest = some decision ∧
      decision.result = .accept) ∧
    RepeatedRead plainContracts rereadRequest earlierRead ∧
    ¬∃ decision, decideEvidence plainContracts
        { rereadRequest with observations := [earlierRead, laterRead] } = some decision ∧
      decision.result = .accept := by
  refine ⟨⟨_, rereadRequest_accepted⟩, earlierRead_repeated, ?_⟩
  intro found
  rcases found with ⟨decision, decided, accepted⟩
  have replans : (evidenceFields plainContracts
      { rereadRequest with observations := [earlierRead, laterRead] }).result = .replan := by
    decide +kernel
  unfold decideEvidence at decided
  split at decided
  · cases decided
    rw [replans] at accepted
    cases accepted
  · cases decided

end SupportGuard
