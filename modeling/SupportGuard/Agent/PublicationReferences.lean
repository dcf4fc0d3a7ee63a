import SupportGuard.Agent.PolicyGate
import SupportGuard.Foundation.Newest

/-! # References of a published candidate

A publication is committed only if its chunks are exactly those of the bindings that its claims
cite. The gate checks less, and rewrites the candidate before it checks: the closure of a
comparison may add a binding that no claim takes up. -/

namespace SupportGuard

open Foundation

/-! ## Canonical references -/

/-- A claim of the candidate cites the binding. -/
def CandidateResponse.Cites (candidate : CandidateResponse) (bindingId : String) : Prop :=
  ∃ claim ∈ candidate.materialClaims, bindingId ∈ claim.citationBindingIds

/-- The references as `_canonicalize_publication_references` leaves them: the citations are the
bindings of the claims, and the chunks are the chunks of these. -/
structure CanonicalReferences (bindings : BindingMap) (candidate : CandidateResponse) : Prop where
  citations : ∀ bindingId, bindingId ∈ candidate.knowledgeCitations ↔ candidate.Cites bindingId
  chunks : ∀ chunk, chunk ∈ candidate.knowledgeChunkIds ↔
    ∃ bindingId, candidate.Cites bindingId ∧ bindings.chunkOf bindingId = some chunk

/-- The locators of a claim are those of its bindings. -/
def LocatorsExact (bindings : BindingMap) (claim : MaterialClaim) : Prop :=
  ∀ locator, locator ∈ claim.knowledgeLocatorHashes ↔
    ∃ bindingId ∈ claim.citationBindingIds, bindings.locatorOf bindingId = some locator

section

variable (host : PolicyHost) (state : AgentState)

/-- The candidate with the comparison closed. -/
def closedCandidate (candidate : CandidateResponse) : CandidateResponse :=
  canonicalizeComparisonCitationGroups host.tables candidate state.evidenceItems
    state.citationBindingMap state.knowledgeComparisonComplete state.evidenceReplanCount

/-- The bindings that close the comparison of a candidate. -/
def closureAdditions (candidate : CandidateResponse) : List (String × EvidenceItem) :=
  comparisonAdditions host.tables candidate state.evidenceItems state.citationBindingMap
    state.knowledgeComparisonComplete state.evidenceReplanCount

/-- The claims about applicability and about the transition. -/
def runtimeClaims (candidate : CandidateResponse) : List MaterialClaim :=
  comparisonTransitionClaims host state
      (canonicalizePolicyApplicability host state (closedCandidate host state candidate)) ++
    applicabilityScopeClaims host state (closedCandidate host state candidate)

/-- A claim takes up a binding that closes the comparison: the binding carries the whole
transition and a claim states it, or a claim of the runtime is made from the binding. -/
def TakenUp (candidate : CandidateResponse) (addition : String × EvidenceItem) : Prop :=
  (transitionSupportsMarkers host.tables
      (comparisonTransitionMarkers host.tables state.evidenceItems) addition.2 = true ∧
    ∃ claim ∈ candidate.materialClaims, carriesAll host.tables
      (comparisonTransitionMarkers host.tables state.evidenceItems) claim.text.toList = true) ∨
  ∃ claim ∈ runtimeClaims host state candidate, addition.1 ∈ claim.citationBindingIds

/-- The candidate that the contracts of the gate hand on. -/
def contractCandidate (stored : CandidateResponse) : CandidateResponse :=
  (preparePolicyContracts host state stored).candidate

/-- When the publication has canonical references: each binding that closes the comparison is
taken up by a claim; and where the checks of the claims are waived, the claims that the gate is
given have the locators of their bindings already, and so have the bindings that join them. -/
structure ReferencesTakenUp (stored : CandidateResponse) : Prop where
  closure : ∀ addition ∈ closureAdditions host state (contractCandidate host state stored),
    TakenUp host state (contractCandidate host state stored) addition
  locators : claimChecksWaived (preparePolicyContracts host state stored)
      (contractCandidate host state stored) = true →
    ∀ claim ∈ (contractCandidate host state stored).materialClaims,
      LocatorsExact state.citationBindingMap claim ∧
        ∀ addition ∈ closureAdditions host state (contractCandidate host state stored),
          (presentText addition.2.locatorHash).length = 64 ∨
            presentText addition.2.locatorHash = ""

/-- No claim that the gate is given rests on a stale reading, and where the checks of the claims
are waived, no binding joins them. -/
structure ClaimsUntouched (stored : CandidateResponse) : Prop where
  fresh : ∀ claim ∈ (contractCandidate host state stored).materialClaims,
    claimIsFresh host.observationIsFresh state.toolObservations claim = true
  waived : claimChecksWaived (preparePolicyContracts host state stored)
      (contractCandidate host state stored) = true →
    (contractCandidate host state stored).materialClaims = [] ∨
      closureAdditions host state (contractCandidate host state stored) = []

end

/-! ## The contracts -/

section Contracts

variable {host : PolicyHost} {state : AgentState} {candidate stored : CandidateResponse}

/-- The citations are the bindings of the claims. -/
def CitationsCited (candidate : CandidateResponse) : Prop :=
  ∀ bindingId, bindingId ∈ candidate.knowledgeCitations ↔ candidate.Cites bindingId

theorem canonicalizeGroundedConflictClarification_cited {grounded : CandidateResponse}
    (made : canonicalizeGroundedConflictClarification host state candidate = some grounded) :
    CitationsCited grounded := by
  unfold canonicalizeGroundedConflictClarification at made
  split at made
  · cases made
  · simp only [] at made
    split at made
    · cases made
      intro bindingId
      simp [CandidateResponse.Cites]
    · cases made

theorem canonicalizePendingActionPolicyCandidate_cited (cited : CitationsCited candidate) :
    CitationsCited (canonicalizePendingActionPolicyCandidate host state candidate) := by
  unfold canonicalizePendingActionPolicyCandidate
  split
  · exact cited
  · split
    · exact cited
    · split
      · exact cited
      · intro bindingId
        simp [CandidateResponse.Cites]

theorem contractCandidate_cited (cited : CitationsCited stored) :
    CitationsCited (contractCandidate host state stored) := by
  apply canonicalizePendingActionPolicyCandidate_cited
  cases made : canonicalizeGroundedConflictClarification host state stored with
  | none => exact cited
  | some grounded => exact canonicalizeGroundedConflictClarification_cited made

end Contracts

/-! ## The closure -/

section Closure

variable {host : PolicyHost} {state : AgentState} {candidate : CandidateResponse}
  {bindingId : String}

/-- How the bindings that close a comparison are chosen. -/
theorem closureAdditions_spec {addition : String × EvidenceItem}
    (added : addition ∈ closureAdditions host state candidate) :
    addition ∈ eligibleBindings state.citationBindingMap state.evidenceItems ∧
      addition.1 ∉ candidate.knowledgeCitations := by
  unfold closureAdditions comparisonAdditions at added
  simp only [] at added
  split at added
  · cases added
  · obtain ⟨group, wanted, found⟩ := Fallible.mem_of_mapM_option added
    have eligible := List.mem_of_find?_eq_some found
    have holds := List.find?_some found
    simp only [List.mem_filter, decide_eq_true_eq, Bool.and_eq_true] at wanted holds
    refine ⟨eligible, fun cited => wanted.2 ?_⟩
    -- A citation that is eligible would have taken its group out of the wanted ones.
    rw [← holds.1]
    exact List.mem_map.mpr ⟨addition, List.mem_filter.mpr ⟨eligible, by simpa using cited⟩, rfl⟩

/-- A binding of the closure has one piece of evidence. -/
theorem closureAdditions_unique {addition other : String × EvidenceItem}
    (added : addition ∈ closureAdditions host state candidate)
    (otherAdded : other ∈ closureAdditions host state candidate)
    (same : other.1 = addition.1) : other = addition := by
  have eligible := (closureAdditions_spec added).1
  have otherEligible := (closureAdditions_spec otherAdded).1
  simp only [eligibleBindings, List.mem_filterMap, Option.map_eq_some_iff] at eligible otherEligible
  obtain ⟨entry, among, item, found, rfl⟩ := eligible
  obtain ⟨otherEntry, otherAmong, otherItem, otherFound, rfl⟩ := otherEligible
  have equal : otherEntry = entry :=
    List.inj_on_of_nodup_map state.citationBindingMap.unique otherAmong among same
  subst equal
  rw [found] at otherFound
  cases otherFound
  rfl

/-- The binding of an addition has the locator of its evidence. -/
theorem closureAdditions_locatorOf {addition : String × EvidenceItem}
    (added : addition ∈ closureAdditions host state candidate) :
    state.citationBindingMap.locatorOf addition.1 =
      addition.2.locatorHash.filter (· ≠ "") := by
  have eligible := (closureAdditions_spec added).1
  simp only [eligibleBindings, List.mem_filterMap, Option.map_eq_some_iff] at eligible
  obtain ⟨⟨bindingId, details⟩, among, item, found, rfl⟩ := eligible
  have matching : item.matchesBinding details = true := by
    unfold exactContextEvidence at found
    split at found
    · rename_i only
      cases found
      have member := List.mem_singleton_self item
      rw [← only] at member
      exact (List.mem_filter.mp member).2
    · cases found
  have same : item.locatorHash = details.locatorHash := by
    simp only [EvidenceItem.matchesBinding, Bool.and_eq_true, decide_eq_true_eq] at matching
    exact matching.1.1.2
  have looked : state.citationBindingMap.entries.lookup bindingId = some details :=
    (Newest.mem_iff_lookup state.citationBindingMap.unique).mp among
  simp only [BindingMap.locatorOf, BindingMap.field, looked, Option.bind_some, same]

/-- A claim that is augmented cites the additions that support the transition as well. -/
theorem mem_augmentTransitionClaim {tables : TextTables} {markers : List (List Char)}
    {additions : List (String × EvidenceItem)} {claim : MaterialClaim} :
    bindingId ∈ (augmentTransitionClaim tables markers additions claim).citationBindingIds ↔
      bindingId ∈ claim.citationBindingIds ∨
        (carriesAll tables markers claim.text.toList = true ∧ ∃ addition ∈ additions,
          transitionSupportsMarkers tables markers addition.2 = true ∧ addition.1 = bindingId) := by
  unfold augmentTransitionClaim
  split
  · rename_i carries
    simp [Grouping.mem_distinct, carries]
  · rename_i carries
    simp [carries]

theorem filter_eq_some_of_hashed {located : Option String} {locator : String}
    (hashed : (presentText located).length = 64 ∨ presentText located = "") :
    located.filter (· ≠ "") = some locator ↔
      presentText located = locator ∧ locator.length = 64 := by
  rw [Option.filter_eq_some_iff, decide_eq_true_eq]
  constructor
  · intro given
    rcases given with ⟨found, present⟩
    subst found
    exact ⟨rfl, hashed.resolve_right present⟩
  · intro given
    rcases given with ⟨equal, long⟩
    have present : locator ≠ "" := by
      intro empty
      rw [empty] at long
      cases long
    cases located with
    | none => exact absurd equal.symm present
    | some text => exact ⟨congrArg some equal, present⟩

/-- A claim with the locators of its bindings keeps them when it is augmented. -/
theorem LocatorsExact.augment {tables : TextTables} {markers : List (List Char)}
    {additions : List (String × EvidenceItem)} {claim : MaterialClaim} {bindings : BindingMap}
    (exact : LocatorsExact bindings claim)
    (own : ∀ addition ∈ additions,
      bindings.locatorOf addition.1 = addition.2.locatorHash.filter (· ≠ ""))
    (hashed : ∀ addition ∈ additions, (presentText addition.2.locatorHash).length = 64 ∨
      presentText addition.2.locatorHash = "") :
    LocatorsExact bindings (augmentTransitionClaim tables markers additions claim) := by
  intro locator
  unfold augmentTransitionClaim
  split
  · simp only [Grouping.mem_distinct, List.mem_append, or_and_right, exists_or]
    apply or_congr (exact locator)
    simp only [List.mem_filter, List.mem_map, decide_eq_true_eq, exists_exists_and_eq_and]
    constructor
    · intro given
      rcases given with ⟨⟨addition, ⟨added, supports⟩, equal⟩, long⟩
      refine ⟨addition, ⟨added, supports⟩, ?_⟩
      rw [own addition added, filter_eq_some_of_hashed (hashed addition added)]
      exact ⟨equal, long⟩
    · intro given
      rcases given with ⟨addition, ⟨added, supports⟩, located⟩
      rw [own addition added, filter_eq_some_of_hashed (hashed addition added)] at located
      exact ⟨⟨addition, ⟨added, supports⟩, located.1⟩, located.2⟩
  · exact exact locator

theorem closedCandidate_citations :
    (closedCandidate host state candidate).knowledgeCitations =
      candidate.knowledgeCitations ++ (closureAdditions host state candidate).map Prod.fst := by
  unfold closedCandidate canonicalizeComparisonCitationGroups closureAdditions
  split <;> rename_i made <;> simp [made]

theorem closedCandidate_cites :
    (closedCandidate host state candidate).Cites bindingId ↔
      candidate.Cites bindingId ∨ ∃ addition ∈ closureAdditions host state candidate,
        addition.1 = bindingId ∧ transitionSupportsMarkers host.tables
          (comparisonTransitionMarkers host.tables state.evidenceItems) addition.2 = true ∧
        ∃ claim ∈ candidate.materialClaims, carriesAll host.tables
          (comparisonTransitionMarkers host.tables state.evidenceItems) claim.text.toList =
            true := by
  unfold closedCandidate canonicalizeComparisonCitationGroups closureAdditions
    CandidateResponse.Cites
  split
  · rename_i made
    simp [made]
  · simp only [List.mem_map, exists_exists_and_eq_and, mem_augmentTransitionClaim]
    constructor
    · intro given
      rcases given with ⟨claim, among, cites⟩
      rcases cites with cites | ⟨carries, addition, added, supports, named⟩
      · exact .inl ⟨claim, among, cites⟩
      · exact .inr ⟨addition, added, named, supports, claim, among, carries⟩
    · intro cites
      rcases cites with
        ⟨claim, among, cites⟩ | ⟨addition, added, named, supports, claim, among, carries⟩
      · exact ⟨claim, among, .inl cites⟩
      · exact ⟨claim, among, .inr ⟨carries, addition, added, supports, named⟩⟩

end Closure

/-! ## The claims of the runtime -/

section RuntimeClaims

variable {host : PolicyHost} {state : AgentState} {candidate : CandidateResponse}
  {claim : MaterialClaim} {bindingId : String}

/-- The claim has cited bindings only, with their locators, and no business sources. -/
structure BoundIn (state : AgentState) (candidate : CandidateResponse) (claim : MaterialClaim) :
    Prop where
  cited : ∀ bindingId ∈ claim.citationBindingIds, bindingId ∈ candidate.knowledgeCitations
  exact : LocatorsExact state.citationBindingMap claim
  unsourced : claim.observationSourceIds = []

theorem mem_orderedBoundEvidence {bound : String × EvidenceItem}
    (member : bound ∈ orderedBoundEvidence state candidate) :
    bound.1 ∈ candidate.knowledgeCitations := by
  unfold orderedBoundEvidence at member
  simp only [List.mem_filterMap, Option.map_eq_some_iff] at member
  obtain ⟨bindingId, cited, item, _, rfl⟩ := member
  exact cited

theorem locatorOf_of_length {bindings : BindingMap}
    (hashed : ((bindings.locatorOf bindingId).getD "").length = 64) :
    bindings.locatorOf bindingId = some ((bindings.locatorOf bindingId).getD "") := by
  cases located : bindings.locatorOf bindingId with
  | none =>
      rw [located] at hashed
      cases hashed
  | some locator => rfl

theorem boundClaim_spec {bindings : BindingMap} {text : String}
    (made : boundClaim bindings text bindingId = some claim) :
    ∃ locator, bindings.locatorOf bindingId = some locator ∧
      claim.citationBindingIds = [bindingId] ∧ claim.knowledgeLocatorHashes = [locator] ∧
      claim.observationSourceIds = [] := by
  unfold boundClaim at made
  simp only [] at made
  split at made
  · rename_i hashed
    cases made
    exact ⟨_, locatorOf_of_length hashed, rfl, rfl, rfl⟩
  · cases made

theorem boundClaim_boundIn {bound : String × EvidenceItem} {text : String}
    (member : bound ∈ orderedBoundEvidence state candidate)
    (made : boundClaim state.citationBindingMap text bound.1 = some claim) :
    BoundIn state candidate claim := by
  obtain ⟨locator, located, bindingIds, locators, unsourced⟩ := boundClaim_spec made
  refine ⟨?_, ?_, unsourced⟩
  · intro bindingId cited
    rw [bindingIds, List.mem_singleton] at cited
    rw [cited]
    exact mem_orderedBoundEvidence member
  · intro other
    rw [bindingIds, locators]
    simp [located, eq_comm]

theorem conditionClaim_boundIn {condition : String}
    (made : conditionClaim host state candidate condition = some claim) :
    BoundIn state candidate claim := by
  unfold conditionClaim at made
  obtain ⟨scope, ranked, made⟩ := List.exists_of_findSome?_eq_some made
  obtain ⟨text, _, made⟩ := Option.bind_eq_some_iff.mp made
  rw [(List.perm_insertionSort _ _).mem_iff, List.mem_map] at ranked
  obtain ⟨bound, ordered, rfl⟩ := ranked
  exact boundClaim_boundIn ordered made

theorem addDimensionClaim_boundIn {added : List MaterialClaim × String} {dimension : String}
    (before : ∀ claim ∈ added.1, BoundIn state candidate claim) :
    ∀ claim ∈ (addDimensionClaim host state candidate added dimension).1,
      BoundIn state candidate claim := by
  intro claim member
  unfold addDimensionClaim at member
  split at member
  · exact before claim member
  · split at member
    · exact before claim member
    · rename_i made
      obtain ⟨bound, ordered, made⟩ := List.exists_of_findSome?_eq_some made
      obtain ⟨text, _, made⟩ := Option.bind_eq_some_iff.mp made
      rcases List.mem_append.mp member with earlier | new
      · exact before claim earlier
      · rw [List.mem_singleton.mp new]
        exact boundClaim_boundIn ordered made

theorem applicabilityScopeClaims_boundIn :
    ∀ claim ∈ applicabilityScopeClaims host state candidate, BoundIn state candidate claim := by
  unfold applicabilityScopeClaims
  split
  · intro claim member
    cases member
  · -- The claims about the conditions come first, then one dimension after the other.
    apply List.foldlRecOn (motive := fun added : List MaterialClaim × String =>
      ∀ claim ∈ added.1, BoundIn state candidate claim)
    · intro claim member
      obtain ⟨condition, _, made⟩ := List.mem_filterMap.mp (List.mem_filter.mp member).1
      exact conditionClaim_boundIn made
    · intro added before dimension _
      exact addDimensionClaim_boundIn before

theorem transitionSources_boundIn {required : List (List Char)}
    {source : String × MaterialClaim}
    (member : source ∈ transitionSources host state required candidate) :
    BoundIn state candidate source.2 ∧ source.2.citationBindingIds = [source.1] := by
  unfold transitionSources at member
  obtain ⟨bound, ordered, made⟩ := List.mem_filterMap.mp member
  simp only [Option.bind_eq_bind, Option.bind_eq_some_iff] at made
  obtain ⟨text, _, claim, made, kept⟩ := made
  split at kept
  · cases kept
    obtain ⟨_, _, bindingIds, _⟩ := boundClaim_spec made
    exact ⟨boundClaim_boundIn ordered made, bindingIds⟩
  · cases kept

theorem comparisonTransitionClaims_boundIn :
    ∀ claim ∈ comparisonTransitionClaims host state candidate, BoundIn state candidate claim := by
  intro claim member
  unfold comparisonTransitionClaims at member
  simp only [] at member
  split at member
  · split at member
    · cases member
    · rename_i bindingId first rest sources
      rw [List.mem_singleton.mp member]
      have each : ∀ source ∈ (bindingId, first) :: rest,
          BoundIn state candidate source.2 ∧ source.2.citationBindingIds = [source.1] := by
        intro source among
        rw [← sources] at among
        exact transitionSources_boundIn among
      refine ⟨?_, ?_, rfl⟩
      · intro other cited
        obtain ⟨source, among, rfl⟩ := List.mem_map.mp
          (show other ∈ ((bindingId, first) :: rest).map Prod.fst from cited)
        apply (each source among).1.cited
        rw [(each source among).2]
        exact .head _
      · intro locator
        have flattened :
            first :: rest.map Prod.snd = ((bindingId, first) :: rest).map Prod.snd := rfl
        have named :
            bindingId :: rest.map Prod.fst = ((bindingId, first) :: rest).map Prod.fst := rfl
        simp only [Grouping.mem_distinct, flattened, named, List.mem_flatMap, List.mem_map,
          exists_exists_and_eq_and]
        apply exists_congr
        intro source
        apply and_congr_right
        intro among
        rw [(each source among).1.exact locator, (each source among).2]
        simp
  · cases member

@[simp]
theorem withFirstClaims_claims {claims : List MaterialClaim} :
    (candidate.withFirstClaims claims).materialClaims = claims ++ candidate.materialClaims := by
  unfold CandidateResponse.withFirstClaims
  split
  · rename_i none
    simp [List.isEmpty_iff.mp none]
  · rfl

@[simp]
theorem withFirstClaims_citations {claims : List MaterialClaim} :
    (candidate.withFirstClaims claims).knowledgeCitations = candidate.knowledgeCitations := by
  unfold CandidateResponse.withFirstClaims
  split <;> rfl

theorem rewrittenCandidate_citations :
    (rewrittenCandidate host state candidate).knowledgeCitations =
      (closedCandidate host state candidate).knowledgeCitations := by
  simp [rewrittenCandidate, canonicalizePolicyComparison, canonicalizePolicyApplicability,
    closedCandidate]

/-- The rewritten candidate has the claims of the runtime before those of the closed one. -/
theorem rewrittenCandidate_claims :
    (rewrittenCandidate host state candidate).materialClaims =
      runtimeClaims host state candidate ++
        (closedCandidate host state candidate).materialClaims := by
  simp [rewrittenCandidate, canonicalizePolicyComparison, canonicalizePolicyApplicability,
    closedCandidate, runtimeClaims]

theorem runtimeClaims_boundIn :
    ∀ claim ∈ runtimeClaims host state candidate,
      BoundIn state (closedCandidate host state candidate) claim := by
  intro claim member
  rcases List.mem_append.mp member with transition | scope
  · have bound := comparisonTransitionClaims_boundIn claim transition
    exact ⟨fun bindingId cited => by
      simpa [canonicalizePolicyApplicability] using bound.cited bindingId cited, bound.exact,
      bound.unsourced⟩
  · exact applicabilityScopeClaims_boundIn claim scope

@[simp]
theorem withFirstClaims_action {claims : List MaterialClaim} :
    (candidate.withFirstClaims claims).action = candidate.action := by
  unfold CandidateResponse.withFirstClaims
  split <;> rfl

theorem rewrittenCandidate_action :
    (rewrittenCandidate host state candidate).action = candidate.action := by
  simp only [rewrittenCandidate, canonicalizePolicyComparison, canonicalizePolicyApplicability,
    withFirstClaims_action]
  unfold canonicalizeComparisonCitationGroups
  split <;> rfl

theorem closedCandidate_of_nil (none : closureAdditions host state candidate = []) :
    closedCandidate host state candidate = candidate := by
  unfold closureAdditions at none
  unfold closedCandidate canonicalizeComparisonCitationGroups
  rw [none]

theorem closedCandidate_claims {claim : MaterialClaim}
    (member : claim ∈ (closedCandidate host state candidate).materialClaims) :
    claim ∈ candidate.materialClaims ∨
      ∃ before ∈ candidate.materialClaims, augmentTransitionClaim host.tables
        (comparisonTransitionMarkers host.tables state.evidenceItems)
        (closureAdditions host state candidate) before = claim := by
  unfold closedCandidate canonicalizeComparisonCitationGroups at member
  split at member
  · exact .inl member
  · exact .inr (List.mem_map.mp member)

/-- Claims with the locators of their bindings keep them when the candidate is rewritten. -/
theorem rewrittenCandidate_locators
    (exact : ∀ claim ∈ candidate.materialClaims, LocatorsExact state.citationBindingMap claim ∧
      ∀ addition ∈ closureAdditions host state candidate,
        (presentText addition.2.locatorHash).length = 64 ∨
          presentText addition.2.locatorHash = "") :
    ∀ claim ∈ (rewrittenCandidate host state candidate).materialClaims,
      LocatorsExact state.citationBindingMap claim := by
  rw [rewrittenCandidate_claims]
  intro claim member
  rcases List.mem_append.mp member with runtime | closed
  · exact (runtimeClaims_boundIn claim runtime).exact
  · rcases closedCandidate_claims closed with kept | ⟨before, among, rfl⟩
    · exact (exact claim kept).1
    · apply (exact before among).1.augment _ (exact before among).2
      intro addition added
      exact closureAdditions_locatorOf added

/-- A candidate with fresh claims only has fresh claims only when it is rewritten. -/
theorem rewrittenCandidate_fresh
    (fresh : ∀ claim ∈ candidate.materialClaims,
      claimIsFresh host.observationIsFresh state.toolObservations claim = true) :
    ∀ claim ∈ (rewrittenCandidate host state candidate).materialClaims,
      claimIsFresh host.observationIsFresh state.toolObservations claim = true := by
  rw [rewrittenCandidate_claims]
  intro claim member
  rcases List.mem_append.mp member with runtime | closed
  · simp [claimIsFresh, (runtimeClaims_boundIn claim runtime).unsourced]
  · rcases closedCandidate_claims closed with kept | ⟨before, among, rfl⟩
    · exact fresh claim kept
    · have same : (augmentTransitionClaim host.tables
          (comparisonTransitionMarkers host.tables state.evidenceItems)
          (closureAdditions host state candidate) before).observationSourceIds =
            before.observationSourceIds := by
        unfold augmentTransitionClaim
        split <;> rfl
      rw [claimIsFresh, same]
      exact fresh before among

/-- What the rewritten candidate cites: what the candidate does, and the bindings of the
closure that are taken up. -/
theorem rewrittenCandidate_cites (cited : CitationsCited candidate) :
    (rewrittenCandidate host state candidate).Cites bindingId ↔
      candidate.Cites bindingId ∨ ∃ addition ∈ closureAdditions host state candidate,
        addition.1 = bindingId ∧ TakenUp host state candidate addition := by
  have split : (rewrittenCandidate host state candidate).Cites bindingId ↔
      (∃ claim ∈ runtimeClaims host state candidate, bindingId ∈ claim.citationBindingIds) ∨
        (closedCandidate host state candidate).Cites bindingId := by
    unfold CandidateResponse.Cites
    rw [rewrittenCandidate_claims]
    simp only [List.mem_append, or_and_right, exists_or]
  rw [split, closedCandidate_cites]
  constructor
  · intro cites
    rcases cites with ⟨claim, made, cites⟩ | cites | ⟨addition, added, rfl, supports⟩
    · have among := (runtimeClaims_boundIn claim made).cited bindingId cites
      rw [closedCandidate_citations, List.mem_append, List.mem_map] at among
      rcases among with among | ⟨addition, added, rfl⟩
      · exact .inl ((cited bindingId).mp among)
      · exact .inr ⟨addition, added, rfl, .inr ⟨claim, made, cites⟩⟩
    · exact .inl cites
    · exact .inr ⟨addition, added, rfl, .inl supports⟩
  · intro cites
    rcases cites with cites | ⟨addition, added, rfl, supports | runtime⟩
    · exact .inr (.inl cites)
    · exact .inr (.inr ⟨addition, added, rfl, supports⟩)
    · exact .inl runtime

/-- The rewritten candidate cites its citations only. -/
theorem rewrittenCandidate_cites_citations (cited : CitationsCited candidate)
    (cites : (rewrittenCandidate host state candidate).Cites bindingId) :
    bindingId ∈ (rewrittenCandidate host state candidate).knowledgeCitations := by
  rw [rewrittenCandidate_citations, closedCandidate_citations, List.mem_append]
  rcases (rewrittenCandidate_cites cited).mp cites with cites | ⟨addition, added, rfl, _⟩
  · exact .inl ((cited bindingId).mpr cites)
  · exact .inr (List.mem_map_of_mem added)

/-- The citations of the rewritten candidate are the bindings of its claims exactly where each
binding of the closure is taken up. -/
theorem rewrittenCandidate_cited_iff (cited : CitationsCited candidate) :
    CitationsCited (rewrittenCandidate host state candidate) ↔
      ∀ addition ∈ closureAdditions host state candidate,
        TakenUp host state candidate addition := by
  constructor
  · intro canonical addition added
    have among : addition.1 ∈ (rewrittenCandidate host state candidate).knowledgeCitations := by
      rw [rewrittenCandidate_citations, closedCandidate_citations, List.mem_append]
      exact .inr (List.mem_map_of_mem added)
    rcases (rewrittenCandidate_cites cited).mp ((canonical _).mp among) with cites | taken
    · exact absurd ((cited _).mpr cites) (closureAdditions_spec added).2
    · obtain ⟨other, otherAdded, same, taken⟩ := taken
      rw [closureAdditions_unique added otherAdded same] at taken
      exact taken
  · intro taken bindingId
    constructor
    · intro among
      rw [rewrittenCandidate_citations, closedCandidate_citations, List.mem_append,
        List.mem_map] at among
      rw [rewrittenCandidate_cites cited]
      rcases among with among | ⟨addition, added, rfl⟩
      · exact .inl ((cited bindingId).mp among)
      · exact .inr ⟨addition, added, rfl, taken addition added⟩
    · exact rewrittenCandidate_cites_citations cited

end RuntimeClaims

/-! ## The publication -/

section Publication

variable {host : PolicyHost} {state : AgentState} {stored : CandidateResponse}
  {contracts : PolicyContracts} {candidate : CandidateResponse} {publication : Publication}

theorem sameTexts_iff {left right : List String} :
    sameTexts left right = true ↔ ∀ text, text ∈ left ↔ text ∈ right := by
  simp only [sameTexts, Bool.and_eq_true, List.all_eq_true, List.contains_eq_mem,
    decide_eq_true_eq]
  constructor
  · intro within text
    exact ⟨within.1 text, within.2 text⟩
  · intro same
    exact ⟨fun text => (same text).mp, fun text => (same text).mpr⟩

/-- What the checks of the gate say of a candidate that passes them. -/
structure Checked (state : AgentState) (contracts : PolicyContracts)
    (candidate : CandidateResponse) : Prop where
  chunks : ∀ chunk, chunk ∈ candidate.knowledgeChunkIds ↔
    ∃ bindingId ∈ candidate.knowledgeCitations,
      state.citationBindingMap.chunkOf bindingId = some chunk
  locators : claimChecksWaived contracts candidate = false →
    ∀ claim ∈ candidate.materialClaims, LocatorsExact state.citationBindingMap claim

theorem assessPolicyIntegrity_checked
    (passed : (assessPolicyIntegrity host state contracts candidate).integrity = true) :
    Checked state contracts candidate := by
  have every : ∀ check ∈ integrityChecks host state contracts candidate, check.2 = true := by
    simpa [assessPolicyIntegrity, List.isEmpty_iff] using passed
  constructor
  · have same := every ("citation_chunks_match", _) (by simp [integrityChecks]; rfl)
    intro chunk
    rw [← sameTexts_iff.mp same chunk, List.mem_filterMap]
  · intro held claim member
    have allowed := every ("claim_locators_allowed", _) (by simp [integrityChecks]; rfl)
    simp only [held, Bool.false_or, List.all_eq_true] at allowed
    have exact := (Bool.and_eq_true _ _).mp (allowed claim member)
    intro locator
    rw [sameTexts_iff.mp exact.2 locator, List.mem_filterMap]

theorem evaluatePolicy_candidate (safeFailureAnswer : String → String) (input : PolicyInput) :
    (evaluatePolicy safeFailureAnswer input).candidate = input.candidate ∨
      (evaluatePolicy safeFailureAnswer input).candidate.materialClaims = [] := by
  simp only [evaluatePolicy]
  split
  · exact .inr rfl
  · exact .inl rfl

theorem resolvePolicyCandidate_spec (host : PolicyHost) (state : AgentState)
    (integrity : PolicyIntegrity) (requirements : PolicyRequirements)
    (candidate : CandidateResponse) :
    (resolvePolicyCandidate host state integrity requirements candidate).candidate.materialClaims =
        [] ∨
      (resolvePolicyCandidate host state integrity requirements candidate).candidate = candidate ∧
      (resolvePolicyCandidate host state integrity requirements candidate).integrity =
        integrity.integrity := by
  unfold resolvePolicyCandidate
  split
  · exact .inl rfl
  · exact .inr ⟨rfl, rfl⟩

/-- Where the decision has claims, they are those of the rewritten candidate, which has passed
the checks. -/
theorem pureDecision_claims
    (claimed : (pureDecision host state contracts candidate).candidate.materialClaims ≠ []) :
    (pureDecision host state contracts candidate).candidate = candidate ∧
      (resolvedCandidate host state contracts candidate).1.integrity =
        (assessPolicyIntegrity host state contracts candidate).integrity := by
  rcases evaluatePolicy_candidate host.safeFailureAnswer (policyInput host state contracts
    (assessPolicyIntegrity host state contracts candidate)
    (preparePolicyRequirements host state contracts
      (assessPolicyIntegrity host state contracts candidate) candidate)
    (resolvedCandidate host state contracts candidate).1
    (resolvedCandidate host state contracts candidate).2 candidate) with kept | dropped
  · rcases resolvePolicyCandidate_spec host state
      (assessPolicyIntegrity host state contracts candidate)
      (preparePolicyRequirements host state contracts
        (assessPolicyIntegrity host state contracts candidate) candidate) candidate
      with dropped | same
    · exact absurd (kept ▸ dropped) claimed
    · exact ⟨kept.trans same.1, same.2⟩
  · exact absurd dropped claimed

variable {decision : PublicationDecision}

theorem publishPolicyDecision_candidate {integrity : PolicyIntegrity}
    {requirements : PolicyRequirements} {resolution : PolicyResolution}
    {assessment : EvidenceAssessment} :
    (publishPolicyDecision host state integrity requirements resolution assessment
        decision).candidate =
      if prunesStaleClaims host state decision then
        pruneStaleBusinessClaims host.observationIsFresh state.toolObservations
          state.citationBindingMap decision.candidate
      else decision.candidate := by
  unfold publishPolicyDecision
  simp only []
  split <;> rfl

theorem publishPolicyDecision_integrity {integrity : PolicyIntegrity}
    {requirements : PolicyRequirements} {resolution : PolicyResolution}
    {assessment : EvidenceAssessment} :
    (publishPolicyDecision host state integrity requirements resolution assessment
        decision).citationIntegrity = resolution.integrity := by
  unfold publishPolicyDecision
  simp only []
  split <;> rfl

/-- The claims that stay. -/
def keptClaims (host : PolicyHost) (state : AgentState) (candidate : CandidateResponse) :
    List MaterialClaim :=
  candidate.materialClaims.filter (claimIsFresh host.observationIsFresh state.toolObservations)

theorem prunesStaleClaims_length (prunes : prunesStaleClaims host state decision = true) :
    (keptClaims host state decision.candidate).length ≠
      decision.candidate.materialClaims.length := by
  intro equal
  have all := List.length_filter_eq_length_iff.mp equal
  simp only [prunesStaleClaims, Bool.and_eq_true, List.any_eq_true] at prunes
  obtain ⟨_, claim, member, stale⟩ := prunes
  rw [all claim member] at stale
  cases stale

theorem judgePolicy_publish (publishes : judgePolicy host state contracts candidate =
    .publish publication) :
    ∃ assessment, publication = publishPolicyDecision host state
      (assessPolicyIntegrity host state contracts candidate)
      (preparePolicyRequirements host state contracts
        (assessPolicyIntegrity host state contracts candidate) candidate)
      (resolvedCandidate host state contracts candidate).1 assessment
      (pureDecision host state contracts candidate) := by
  simp only [judgePolicy] at publishes
  split at publishes
  · cases publishes
  · split at publishes
    · cases publishes
    · split at publishes
      · cases publishes
      · cases publishes
        exact ⟨_, rfl⟩

section Pruning

variable
  (removed : (keptClaims host state candidate).length ≠ candidate.materialClaims.length)

include removed

theorem pruneStaleBusinessClaims_claims :
    (pruneStaleBusinessClaims host.observationIsFresh state.toolObservations
      state.citationBindingMap candidate).materialClaims = keptClaims host state candidate := by
  unfold keptClaims at *
  simp only [pruneStaleBusinessClaims, if_neg removed]

theorem pruneStaleBusinessClaims_citations {bindingId : String} :
    bindingId ∈ (pruneStaleBusinessClaims host.observationIsFresh state.toolObservations
        state.citationBindingMap candidate).knowledgeCitations ↔
      bindingId ∈ candidate.knowledgeCitations ∧
        ∃ claim ∈ keptClaims host state candidate, bindingId ∈ claim.citationBindingIds := by
  unfold keptClaims at *
  simp only [pruneStaleBusinessClaims, if_neg removed, List.mem_filter, decide_eq_true_eq,
    List.mem_flatMap]

theorem pruneStaleBusinessClaims_chunks {chunk : String} :
    chunk ∈ (pruneStaleBusinessClaims host.observationIsFresh state.toolObservations
        state.citationBindingMap candidate).knowledgeChunkIds ↔
      chunk ∈ candidate.knowledgeChunkIds ∧
        ∃ bindingId, (∃ claim ∈ keptClaims host state candidate,
          bindingId ∈ claim.citationBindingIds) ∧
        state.citationBindingMap.chunkOf bindingId = some chunk := by
  unfold keptClaims at *
  simp only [pruneStaleBusinessClaims, if_neg removed, List.mem_filter, decide_eq_true_eq,
    List.mem_filterMap, List.mem_flatMap]

/-- Removing claims takes the references of the removed ones away. -/
theorem pruneStaleBusinessClaims_canonical
    (within : ∀ bindingId, candidate.Cites bindingId → bindingId ∈ candidate.knowledgeCitations)
    (chunks : ∀ chunk, chunk ∈ candidate.knowledgeChunkIds ↔
      ∃ bindingId ∈ candidate.knowledgeCitations,
        state.citationBindingMap.chunkOf bindingId = some chunk) :
    CanonicalReferences state.citationBindingMap (pruneStaleBusinessClaims host.observationIsFresh
      state.toolObservations state.citationBindingMap candidate) := by
  have cited : ∀ bindingId, (∃ claim ∈ keptClaims host state candidate,
      bindingId ∈ claim.citationBindingIds) → bindingId ∈ candidate.knowledgeCitations := by
    intro bindingId ⟨claim, kept, cites⟩
    exact within bindingId ⟨claim, (List.mem_filter.mp kept).1, cites⟩
  constructor
  · intro bindingId
    rw [pruneStaleBusinessClaims_citations removed, CandidateResponse.Cites,
      pruneStaleBusinessClaims_claims removed]
    exact ⟨And.right, fun kept => ⟨cited bindingId kept, kept⟩⟩
  · intro chunk
    simp only [CandidateResponse.Cites, pruneStaleBusinessClaims_claims removed]
    rw [pruneStaleBusinessClaims_chunks removed]
    constructor
    · exact And.right
    · intro given
      rcases given with ⟨bindingId, kept, named⟩
      exact ⟨(chunks chunk).mpr ⟨bindingId, cited bindingId kept, named⟩, bindingId, kept, named⟩

end Pruning

/-- With every citation cited, the chunks of the citations are those of the claims. -/
theorem Checked.canonical_iff (checked : Checked state contracts candidate) :
    CanonicalReferences state.citationBindingMap candidate ↔ CitationsCited candidate := by
  constructor
  · exact CanonicalReferences.citations
  · intro cited
    refine ⟨cited, fun chunk => ?_⟩
    rw [checked.chunks]
    simp only [cited _]

/-- What is published of a rewritten candidate whose claims stay. -/
theorem judgePolicy_published (publishes : judgePolicy host state contracts candidate =
      .publish publication)
    (integrity : publication.citationIntegrity = true)
    (claimed : publication.candidate.materialClaims ≠ []) :
    Checked state contracts candidate ∧ (pureDecision host state contracts candidate).candidate =
        candidate ∧
      publication.candidate =
        if prunesStaleClaims host state (pureDecision host state contracts candidate) then
          pruneStaleBusinessClaims host.observationIsFresh state.toolObservations
            state.citationBindingMap candidate
        else candidate := by
  obtain ⟨assessment, rfl⟩ := judgePolicy_publish publishes
  rw [publishPolicyDecision_candidate] at claimed
  rw [publishPolicyDecision_integrity] at integrity
  have claims : (pureDecision host state contracts candidate).candidate.materialClaims ≠ [] := by
    intro none
    apply claimed
    split
    · rename_i prunes
      rw [pruneStaleBusinessClaims_claims (prunesStaleClaims_length prunes), keptClaims, none]
      rfl
    · exact none
  obtain ⟨same, resolved⟩ := pureDecision_claims claims
  rw [resolved] at integrity
  refine ⟨assessPolicyIntegrity_checked integrity, same, ?_⟩
  rw [publishPolicyDecision_candidate, same]

end Publication

section Main

variable (host : PolicyHost) (state : AgentState) (stored : CandidateResponse)
  (publication : Publication)

end Main

/-! ## A comparison whose old version names one value only -/

/-- A gate whose readers find nothing to ask for. -/
def plainHost : PolicyHost where
  tables :=
    { isAlphanumeric := fun character => character.isAlphanum ||
        (0x4E00 ≤ character.toNat && character.toNat ≤ 0x9FFF)
      casefold := List.map Char.toLower
      str := fun value => value.toStr.toList }
  asksComparedApplicability _ := false
  conflictClarification _ := ""
  hasActiveActionContext _ := false
  lexicalScore _ _ := 0
  applicabilityConditions _ := []
  applicabilityDimensions _ := []
  referentialRequirements _ _ := []
  supportedReferentialFacets _ _ := []
  applicabilityScopeClaim _ _ _ := none
  applicabilityDimensionAnswered _ _ := true
  applicabilityDimensionClaim _ _ := none
  missingReferentialRequirements _ _ := []
  durableBindingsValid _ _ := true
  readOnlyFactContractValid _ _ := false
  requestedFactContractValid _ _ := false
  requestedFactRequirements _ := []
  requestedFactReadsComplete _ := false
  requestedFactStatus _ _ := ([], [])
  mixedAccountMissingGroups _ _ := []
  clarificationRequiresKnowledgeFirst _ := false
  usableCurrentKnowledge _ := true
  messageSpecifiesRequest _ := false
  hasSecretRedaction _ := false
  proposalEligible _ _ := none
  observationIsFresh _ := true
  safeApplicabilityConditionAnswer _ := ""
  safeFailureAnswer reason := reason

def locatorHash (digit : Char) : String :=
  String.ofList (List.replicate 64 digit)

/-- Evidence of one group with the hash of its locator. -/
def versionEvidence (group : String) (digit : Char) (span : String) : EvidenceItem where
  evidenceId := some (group ++ "-evidence")
  evidenceGroup := some group
  chunkId := some (group ++ "-chunk")
  documentId := some "limits"
  version := some group
  contentHash := some group
  locatorHash := some (locatorHash digit)
  supportingSpanEligible := true
  supportingSpan := span

def EvidenceItem.details (item : EvidenceItem) : BindingDetails where
  evidenceId := item.evidenceId
  evidenceGroup := item.evidenceGroup
  chunkId := item.chunkId
  documentId := item.documentId
  version := item.version
  contentHash := item.contentHash
  locatorHash := item.locatorHash

def currentEvidence : EvidenceItem :=
  versionEvidence "current" 'a' "旧版本为 8 GB，当前版本为 16 GB。"

/-- The old version with one of the two values. -/
def historicalEvidence : EvidenceItem :=
  versionEvidence "historical" 'b' "旧版本为 8 GB。"

def versionBindings (old : EvidenceItem) : BindingMap :=
  ⟨[("b1", currentEvidence.details), ("b2", old.details)], by simp⟩

/-- The answer cites the current version only. -/
def transitionAnswer : CandidateResponse where
  answer := "旧版本为 8 GB，当前版本为 16 GB。"
  action := .answer
  knowledgeChunkIds := ["current-chunk"]
  knowledgeCitations := ["b1"]
  materialClaims :=
    [{ text := "旧版本为 8 GB，当前版本为 16 GB。"
       citationBindingIds := ["b1"]
       knowledgeLocatorHashes := [locatorHash 'a'] }]
  proposedArguments := []
  uniqueArguments := List.nodup_nil

/-- The old version with the whole transition. -/
def transitionEvidence : EvidenceItem :=
  versionEvidence "historical" 'b' "旧版本为 8 GB，当前版本为 16 GB。"

/-- A completed comparison after one replan, of the current version with the old one. -/
def versionState (old : EvidenceItem) : AgentState where
  runId := "run"
  tenantId := "tenant"
  customerId := "customer"
  classification := { issueType := .productKnowledge }
  toolObservations :=
    [{ identity := .chosen "call"
       runId := "run"
       toolName := "search_knowledge"
       status := "ok"
       data := [("evidence", .array [.string "evidence"])] }]
  evidence := [currentEvidence, old]
  knowledgeComparisonRequested := true
  knowledgeComparisonComplete := true
  agentFinishReason := some "answered"
  citationBindingMap := versionBindings old
  evidenceReplanCount := 1

def comparisonOutcome (old : EvidenceItem) : PolicyOutcome :=
  policyOutcome plainHost (versionState old) transitionAnswer

/-- The answer states the transition that each binding of the closure carries. -/
def closureSupported (old : EvidenceItem) : Bool :=
  let candidate := contractCandidate plainHost (versionState old) transitionAnswer
  let markers := comparisonTransitionMarkers plainHost.tables (versionState old).evidenceItems
  (closureAdditions plainHost (versionState old) candidate).all fun addition =>
    transitionSupportsMarkers plainHost.tables markers addition.2 &&
      candidate.materialClaims.any fun claim =>
        carriesAll plainHost.tables markers claim.text.toList

/-- The outcome is a publication that a test accepts. -/
def PolicyOutcome.publishes (accepts : Publication → Bool) : PolicyOutcome → Bool
  | .publish publication => accepts publication
  | .replan _ => false

theorem PolicyOutcome.exists_of_publishes {accepts : Publication → Bool} {outcome : PolicyOutcome}
    (published : outcome.publishes accepts = true) :
    ∃ publication, outcome = .publish publication ∧ accepts publication = true := by
  cases outcome with
  | publish publication => exact ⟨publication, rfl, published⟩
  | replan assessment => cases published

theorem transitionAnswer_canonical (old : EvidenceItem) :
    CanonicalReferences (versionBindings old) transitionAnswer := by
  constructor
  · intro bindingId
    simp [CandidateResponse.Cites, transitionAnswer]
  · intro chunk
    have current : (versionBindings old).chunkOf "b1" = some "current-chunk" := rfl
    simp [CandidateResponse.Cites, transitionAnswer, current, eq_comm]

theorem transition_evaluated :
    closureSupported transitionEvidence = true ∧
    claimChecksWaived
      (preparePolicyContracts plainHost (versionState transitionEvidence) transitionAnswer)
      (contractCandidate plainHost (versionState transitionEvidence) transitionAnswer) = false ∧
    (comparisonOutcome transitionEvidence).publishes (fun publication =>
      publication.citationIntegrity && !publication.candidate.materialClaims.isEmpty &&
        publication.candidate.knowledgeCitations.contains "b2") = true := by
  decide +kernel

theorem transition_takenUp :
    ReferencesTakenUp plainHost (versionState transitionEvidence) transitionAnswer := by
  rcases transition_evaluated with ⟨supported, checked, -⟩
  constructor
  · intro addition added
    have both := List.all_eq_true.mp supported addition added
    rw [Bool.and_eq_true, List.any_eq_true] at both
    exact .inl both
  · intro waived
    rw [checked] at waived
    cases waived

end SupportGuard
