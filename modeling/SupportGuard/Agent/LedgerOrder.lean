import Mathlib.Data.Prod.Lex
import SupportGuard.Agent.LedgerSoundness
import SupportGuard.Foundation.Grouping

/-! # The order of the observations

A ledger is a function of the reads of its run by the tools of its action. The order in which
they were collected, other runs and other tools leave it unchanged. -/

namespace SupportGuard

open Foundation Fallible

/-! ## Ranks -/

namespace ObservationRank

/-- Ranks compare as triples do. -/
def triple (rank : ObservationRank) : Int ×ₗ Int ×ₗ String :=
  toLex (rank.time, toLex (rank.attempt, rank.identity))

theorem le_iff {left right : ObservationRank} :
    left.le right = true ↔ left.triple ≤ right.triple := by
  simp only [le, triple, Bool.or_eq_true, Bool.and_eq_true, decide_eq_true_eq,
    Prod.Lex.toLex_le_toLex]

theorem triple_injective {left right : ObservationRank} (same : left.triple = right.triple) :
    left = right := by
  cases left
  cases right
  simpa [triple] using same

end ObservationRank

section

variable {contracts : LedgerContracts}

/-- The latest first. -/
def laterFirst (left right : ObservationRank × JsonMembers) : Prop :=
  right.1.le left.1 = true

instance : DecidableRel laterFirst :=
  fun left right => inferInstanceAs (Decidable (right.1.le left.1 = true))

instance : Std.Total laterFirst where
  total left right := by
    unfold laterFirst
    rw [ObservationRank.le_iff, ObservationRank.le_iff]
    exact le_total _ _

instance : IsTrans (ObservationRank × JsonMembers) laterFirst where
  trans first second third before after := by
    unfold laterFirst at before after ⊢
    rw [ObservationRank.le_iff] at before after ⊢
    exact le_trans after before

/-! ## The observations of a capability -/

/-- The keys by which observations are ordered tell them apart. -/
def RanksDistinct (contracts : LedgerContracts) (observations : List JsonMembers) : Prop :=
  ∀ item ∈ observations, ∀ other ∈ observations, ∀ rank,
    observationRank contracts item = .ok rank → observationRank contracts other = .ok rank →
      item = other

/-- A ranked observation. -/
def withRank (contracts : LedgerContracts) (item : JsonMembers) :
    Except LedgerStop (ObservationRank × JsonMembers) := do
  let rank ← observationRank contracts item
  .ok (rank, item)

theorem withRank_eq_ok_iff {item : JsonMembers} {ranked : ObservationRank × JsonMembers} :
    withRank contracts item = .ok ranked ↔
      observationRank contracts item = .ok ranked.1 ∧ ranked.2 = item := by
  simp only [withRank, bind_eq_ok_iff, Except.ok.injEq]
  constructor
  · intro computed
    rcases computed with ⟨rank, found, rfl⟩
    exact ⟨found, rfl⟩
  · intro computed
    exact ⟨ranked.1, computed.1, by rw [← computed.2]⟩

theorem relevantObservations_eq_ok_iff {observations reads : List JsonMembers}
    {runId capability : String} :
    relevantObservations contracts observations runId capability = .ok reads ↔
      ∃ ranked, (runReads observations runId capability).mapM (withRank contracts) = .ok ranked ∧
        (ranked.insertionSort laterFirst).map Prod.snd = reads := by
  simp only [relevantObservations, bind_eq_ok_iff, Except.ok.injEq]
  rfl

theorem relevantObservations_order {observations others reads : List JsonMembers}
    {runId capability : String}
    (same : (runReads observations runId capability).Perm (runReads others runId capability))
    (distinct : RanksDistinct contracts (runReads observations runId capability))
    (found : relevantObservations contracts observations runId capability = .ok reads) :
    relevantObservations contracts others runId capability = .ok reads := by
  rw [relevantObservations_eq_ok_iff] at found ⊢
  rcases found with ⟨ranked, mapped, sorted⟩
  rcases mapM_perm same mapped with ⟨reranked, remapped, order⟩
  refine ⟨reranked, remapped, ?_⟩
  rw [← sorted]
  apply congrArg (List.map Prod.snd)
  apply (Grouping.insertionSort_congr order.symm _).symm
  intro item member other otherMember before after
  rcases mem_of_mapM mapped member with ⟨read, among, computed⟩
  rcases mem_of_mapM mapped otherMember with ⟨otherRead, otherAmong, otherComputed⟩
  rw [withRank_eq_ok_iff] at computed otherComputed
  have ranks : item.1 = other.1 := by
    apply ObservationRank.triple_injective
    unfold laterFirst at before after
    rw [ObservationRank.le_iff] at before after
    exact le_antisymm after before
  rw [← ranks] at otherComputed
  have reads := distinct read among otherRead otherAmong item.1 computed.1 otherComputed.1
  rw [← computed.2, ← otherComputed.2] at reads
  exact Prod.ext ranks reads

/-- Two lists with the same reads of a run by the tools. -/
def SameReads (runId : String) (capabilities : List String)
    (observations others : List JsonMembers) : Prop :=
  ∀ capability ∈ capabilities,
    (runReads observations runId capability).Perm (runReads others runId capability)

variable {observations others : List JsonMembers}

theorem RanksDistinct.perm (distinct : RanksDistinct contracts observations)
    (same : observations.Perm others) :
    RanksDistinct contracts others := by
  intro item member other otherMember
  exact distinct item (same.symm.subset member) other (same.symm.subset otherMember)

theorem relevantObservations_congr {runId capability : String}
    (same : (runReads observations runId capability).Perm (runReads others runId capability))
    (distinct : RanksDistinct contracts (runReads observations runId capability))
    (reads : List JsonMembers) :
    relevantObservations contracts observations runId capability = .ok reads ↔
      relevantObservations contracts others runId capability = .ok reads := by
  constructor
  · exact relevantObservations_order same distinct
  · exact relevantObservations_order same.symm (distinct.perm same)

/-! ## Entries -/

theorem resourceEntry_congr {spec : ActionSpec} {obligation : EvidenceObligationSpec}
    {admission : ActionAdmission} {runId : String} {now : DateTime}
    (same : SameReads runId obligation.capabilities observations others)
    (distinct : ∀ capability ∈ obligation.capabilities,
      RanksDistinct contracts (runReads observations runId capability)) (entry : ObligationEntry) :
    resourceEntry contracts spec obligation admission observations runId now = .ok entry ↔
      resourceEntry contracts spec obligation admission others runId now = .ok entry := by
  have gathered (found : List (List JsonMembers)) :
      obligation.capabilities.mapM (fun capability =>
          relevantObservations contracts observations runId capability) = .ok found ↔
        obligation.capabilities.mapM (fun capability =>
          relevantObservations contracts others runId capability) = .ok found := by
    apply mapM_congr_ok
    intro capability declared reads
    exact relevantObservations_congr (same capability declared) (distinct capability declared)
      reads
  simp only [resourceEntry, bind_eq_ok_iff, gathered]

theorem knowledgeEntry_congr {obligation : EvidenceObligationSpec} {admission : ActionAdmission}
    {runId : String} {now : DateTime} {citations : List ContextCitationBinding}
    {providerAttemptId : Option String}
    (same : SameReads runId ["search_knowledge"] observations others)
    (distinct : RanksDistinct contracts (runReads observations runId "search_knowledge"))
    (entry : ObligationEntry) :
    knowledgeEntry contracts obligation admission observations runId now citations
        providerAttemptId = .ok entry ↔
      knowledgeEntry contracts obligation admission others runId now citations
        providerAttemptId = .ok entry := by
  have searches := same "search_knowledge" List.mem_cons_self
  simp only [knowledgeEntry, bind_eq_ok_iff, relevantObservations_congr searches distinct]

/-! ## The ledger -/

/-- The tools that an action reads by. -/
def ActionSpec.readCapabilities (spec : ActionSpec) : List String :=
  spec.obligations.flatMap EvidenceObligationSpec.capabilities

/-- Two lists with the same reads of the run by the tools of the action have the same ledger,
when the keys of these reads are distinct. -/
theorem evaluateActionObligations_order (contracts : LedgerContracts) (spec : ActionSpec)
    (admission : ActionAdmission) (observations others : List JsonMembers) (runId : String)
    (same : SameReads runId spec.readCapabilities observations others)
    (distinct : ∀ capability ∈ spec.readCapabilities,
      RanksDistinct contracts (runReads observations runId capability))
    (citations : List ContextCitationBinding) (providerAttemptId : Option String)
    (now : DateTime) (ledger : ActionObligationLedger) :
    evaluateActionObligations contracts spec admission observations runId citations
        providerAttemptId now = .ok ledger ↔
      evaluateActionObligations contracts spec admission others runId citations
        providerAttemptId now = .ok ledger := by
  have entries (found : List ObligationEntry) :
      spec.obligations.mapM (fun obligation =>
          if obligation.kind = .knowledge then
            knowledgeEntry contracts obligation admission observations runId (atUtc now)
              citations providerAttemptId
          else resourceEntry contracts spec obligation admission observations runId
            (atUtc now)) = .ok found ↔
        spec.obligations.mapM (fun obligation =>
          if obligation.kind = .knowledge then
            knowledgeEntry contracts obligation admission others runId (atUtc now) citations
              providerAttemptId
          else resourceEntry contracts spec obligation admission others runId
            (atUtc now)) = .ok found := by
    apply mapM_congr_ok
    intro obligation declared entry
    have read : ∀ capability ∈ obligation.capabilities, capability ∈ spec.readCapabilities :=
      fun capability given => List.mem_flatMap.mpr ⟨obligation, declared, given⟩
    by_cases knowledge : obligation.kind = .knowledge
    · have searches : "search_knowledge" ∈ obligation.capabilities := by
        simp [obligation.searchOnly knowledge]
      rw [if_pos knowledge, if_pos knowledge]
      apply knowledgeEntry_congr
      · intro capability given
        rw [List.mem_singleton] at given
        rw [given]
        exact same _ (read _ searches)
      · exact distinct _ (read _ searches)
    · rw [if_neg knowledge, if_neg knowledge]
      exact resourceEntry_congr (fun capability given => same capability (read capability given))
        (fun capability given => distinct capability (read capability given)) entry
  simp only [evaluateActionObligations, bind_eq_ok_iff, entries]

end

/-! The reads of a refund, one of them repeated after it failed. -/

def failedRead : JsonMembers :=
  [("run_id", .string "run"), ("tool_name", .string "query_billing_record"),
    ("observation_id", .string "observation_0"), ("status", .string "error")]

def retriedObservations : List JsonMembers :=
  failedRead :: refundedObservations "2"

/-- They are collected the other way round, beside the read of another run. -/
def recollectedObservations : List JsonMembers :=
  [("run_id", .string "other"), ("tool_name", .string "search_knowledge")] ::
    retriedObservations.reverse

theorem ranksDistinct_pair {contracts : LedgerContracts} {first second : JsonMembers}
    (apart : (observationRank contracts first).toOption ≠
      (observationRank contracts second).toOption) : RanksDistinct contracts [first, second] := by
  intro item member other otherMember rank itemRank otherRank
  rcases List.mem_pair.mp member with rfl | rfl <;>
    rcases List.mem_pair.mp otherMember with rfl | rfl
  · rfl
  · rw [itemRank, otherRank] at apart
    exact absurd rfl apart
  · rw [itemRank, otherRank] at apart
    exact absurd rfl apart
  · rfl

theorem evaluateActionObligations_order_refund :
    ∃ ledger, ledger.nextState = .assembleCandidate ∧
      ∀ observations ∈ [retriedObservations, recollectedObservations],
        evaluateActionObligations (refundedContracts none) (actionSpec .refund) refundedAdmission
          observations "run" [refundedCitation] (some "attempt") candidateNow = .ok ledger := by
  have next : ((evaluateActionObligations (refundedContracts none) (actionSpec .refund)
      refundedAdmission retriedObservations "run" [refundedCitation] (some "attempt")
      candidateNow).toOption.map ActionObligationLedger.nextState) = some .assembleCandidate := by
    decide +kernel
  rcases Option.map_eq_some_iff.mp next with ⟨ledger, computed, next⟩
  have capabilities : (actionSpec .refund).readCapabilities =
      ["query_billing_record", "search_knowledge"] := rfl
  apply Exists.intro ledger
  apply And.intro next
  have retried := toOption_eq_some computed
  have recollected := (evaluateActionObligations_order (refundedContracts none)
    (actionSpec .refund) refundedAdmission retriedObservations recollectedObservations "run" ?_ ?_
    [refundedCitation] (some "attempt") candidateNow ledger).mp retried
  · exact List.forall_mem_cons.mpr ⟨retried, List.forall_mem_singleton.mpr recollected⟩
  · intro capability declared
    simp only [capabilities, List.mem_cons, List.not_mem_nil, or_false] at declared
    rcases declared with rfl | rfl
    · exact List.Perm.swap _ _ []
    · exact List.Perm.of_eq rfl
  · intro capability declared
    simp only [capabilities, List.mem_cons, List.not_mem_nil, or_false] at declared
    rcases declared with rfl | rfl
    · apply ranksDistinct_pair
      decide +kernel
    · intro item member other otherMember _ _ _
      rw [List.mem_singleton.mp member, List.mem_singleton.mp otherMember]

end SupportGuard
