import SupportGuard.Foundation.Calendar
import SupportGuard.Foundation.Grouping
import SupportGuard.Rag.SourceLocators

/-! # The selection of evidence

`rag/ranking.py`, `rag/eligibility.py` and `rag/evidence.py`: the fusion of two lists of hits,
the eligibility of a candidate, and the choice of the evidence. A candidate that is not chosen is
given a reason on most of the paths. -/

namespace SupportGuard

open Foundation Fallible

namespace Retrieval

/-! ## Candidates -/

inductive EvidenceGroup
  | current
  | historical
deriving DecidableEq

/-- Whether a chunk is an object that the search was given or a copy that a lane has made. What a
search writes into a candidate, its envelope and its group, it writes into that object. -/
inductive ChunkOrigin
  | recalled
  | copied
deriving DecidableEq

/-- A chunk as a search recalls it. -/
structure ParsedChunk (Score : Type) where
  chunkId : String
  documentId : String
  title : List Char
  sectionPath : List Char
  content : List Char
  tokenCount : Int
  contentHash : String
  version : String
  status : String
  effectiveAt : Instant
  effectiveUntil : Option Instant
  documentFamilyKey : String
  authorityLevel : Int
  applicablePlan : Option String
  applicableRegion : Option String
  sourceLocator : Option SourceLocator
  vectorSimilarity : Option Score
  keywordScore : Option Score
  exactTokenMatch : Bool
  evidenceGroup : Option EvidenceGroup
  origin : ChunkOrigin

inductive EligibilityOutcome
  | eligible
  | backgroundOnly
  | abstain
  | clarify
deriving DecidableEq

structure RankedChunk (Score : Type) where
  chunk : ParsedChunk Score
  vectorRank : Option Nat
  keywordRank : Option Nat
  rrfScore : Score
  rerankScore : Option Score
  vectorSimilarity : Option Score
  keywordScore : Option Score
  vectorContribution : Score
  keywordContribution : Score
  eligibilityOutcome : Option EligibilityOutcome
  eligibilityReason : Option String
  omissionReason : Option String

structure KnowledgeCitation where
  documentId : String
  chunkId : String
  title : List Char
  sectionPath : List Char
  version : String
  effectiveAt : Instant
  excerpt : List Char
  contentHash : String
  sourceLocator : Option SourceLocator

structure EvidenceSet (Score : Type) where
  chunks : List (RankedChunk Score)
  citations : List KnowledgeCitation
  conflict : Bool := false
  refusalReason : Option String := none

def RankedChunk.chunkId {Score : Type} (item : RankedChunk Score) : String :=
  item.chunk.chunkId

/-- What the arithmetic of doubles computes. -/
structure Doubles (Score : Type) where
  ofInt : Int → Score
  add : Score → Score → Score
  reciprocal : Nat → Score
  /-- `0.15 * score` -/
  coherenceWeight : Score → Score
  sum : List Score → Score
  timestamp : Instant → Score

section

variable {Score : Type} [LinearOrder Score] (doubles : Doubles Score)

/-! ## Fusion -/

def RankedChunk.ofChunk (chunk : ParsedChunk Score) : RankedChunk Score where
  chunk
  vectorRank := none
  keywordRank := none
  rrfScore := doubles.ofInt 0
  rerankScore := none
  vectorSimilarity := none
  keywordScore := none
  vectorContribution := doubles.ofInt 0
  keywordContribution := doubles.ofInt 0
  eligibilityOutcome := none
  eligibilityReason := none
  omissionReason := none

def rankConstant : Nat := 60

def vectorHit (rank : Nat) (chunk : ParsedChunk Score) (item : RankedChunk Score) :
    RankedChunk Score :=
  { item with
    vectorRank := some rank
    vectorSimilarity := chunk.vectorSimilarity
    vectorContribution := doubles.reciprocal (rankConstant + rank)
    rrfScore := doubles.add item.rrfScore (doubles.reciprocal (rankConstant + rank)) }

def keywordHit (rank : Nat) (chunk : ParsedChunk Score) (item : RankedChunk Score) :
    RankedChunk Score :=
  { item with
    chunk :=
      if item.chunk.exactTokenMatch = false ∧ chunk.exactTokenMatch then
        { item.chunk with exactTokenMatch := chunk.exactTokenMatch, origin := .copied }
      else item.chunk
    keywordRank := some rank
    keywordScore := chunk.keywordScore
    keywordContribution := doubles.reciprocal (rankConstant + rank)
    rrfScore := doubles.add item.rrfScore (doubles.reciprocal (rankConstant + rank)) }

/-- `merged.setdefault(chunk.chunk_id, RankedChunk(chunk=chunk))`, and a change of what is found. -/
def recallHit (hit : Nat → ParsedChunk Score → RankedChunk Score → RankedChunk Score)
    (merged : List (String × RankedChunk Score)) (ranked : ParsedChunk Score × Nat) :
    List (String × RankedChunk Score) :=
  assign merged ranked.1.chunkId
    (hit ranked.2 ranked.1
      ((merged.lookup ranked.1.chunkId).getD (.ofChunk doubles ranked.1)))

def mergedHits (vector keyword : List (ParsedChunk Score)) : List (String × RankedChunk Score) :=
  (keyword.zipIdx 1).foldl (recallHit doubles (keywordHit doubles))
    ((vector.zipIdx 1).foldl (recallHit doubles (vectorHit doubles)) [])

/-- The three best scores of a document. -/
def coherence (items : List (RankedChunk Score)) (documentId : String) : Score :=
  doubles.sum ((((items.filter fun item => item.chunk.documentId = documentId).map
    RankedChunk.rrfScore).insertionSort fun left right => right ≤ left).take 3)

/-- The greater score comes first, then the smaller id. -/
def fusedBefore (left right : RankedChunk Score) : Prop :=
  right.rrfScore < left.rrfScore ∨
    left.rrfScore = right.rrfScore ∧ left.chunkId ≤ right.chunkId

instance (left right : RankedChunk Score) : Decidable (fusedBefore left right) :=
  inferInstanceAs (Decidable (_ ∨ _))

def reciprocalRankFusion (vector keyword : List (ParsedChunk Score)) : List (RankedChunk Score) :=
  let merged := (mergedHits doubles vector keyword).map Prod.snd
  let coherent := merged.map fun item =>
    { item with
      rrfScore := doubles.add item.rrfScore
        (doubles.coherenceWeight (coherence doubles merged item.chunk.documentId)) }
  let fused := coherent.insertionSort fusedBefore
  let channelHeads := (vector.take 1 ++ keyword.take 1).map ParsedChunk.chunkId
  (fused.filter fun item => item.chunkId ∈ channelHeads) ++
    fused.filter fun item => item.chunkId ∉ channelHeads

/-! ## Eligibility -/

inductive RetrievalIntent
  | current
  | historical
  | compare
deriving DecidableEq

structure EvidenceEligibilityConfig (Score : Type) where
  minimumAuthority : Int
  crossChannelVectorFloor : Score
  vectorOnlyFloor : Score

structure EvidenceEligibilityInput (Score : Type) where
  retrievalIntent : RetrievalIntent
  status : String
  authority : Int
  scopeMatch : Bool
  timeMatch : Bool
  unresolvedConflict : Bool := false
  missingRequiredScope : Bool := false
  exactTokenMatch : Bool
  structuredFieldMatch : Bool
  vectorSimilarity : Score
  keywordChannelMatch : Bool

inductive RetrievalRaise
  | validationError
  | omissionReasonMissing
deriving DecidableEq

/-- The field bounds of the input model. -/
def EvidenceEligibilityInput.Valid (item : EvidenceEligibilityInput Score) : Prop :=
  item.status ∈ ["active", "deprecated"] ∧ 0 ≤ item.authority ∧ item.authority ≤ 100 ∧
    doubles.ofInt (-1) ≤ item.vectorSimilarity ∧ item.vectorSimilarity ≤ doubles.ofInt 1

instance (item : EvidenceEligibilityInput Score) : Decidable (item.Valid doubles) :=
  inferInstanceAs (Decidable (_ ∧ _))

def decideEvidenceEligibility (config : EvidenceEligibilityConfig Score)
    (item : EvidenceEligibilityInput Score) : EligibilityOutcome × String :=
  if item.missingRequiredScope then (.clarify, "missing_scope")
  else if !item.scopeMatch then (.abstain, "scope_mismatch")
  else if !item.timeMatch then (.abstain, "time_mismatch")
  else if item.authority < config.minimumAuthority then (.backgroundOnly, "low_authority")
  else if item.unresolvedConflict then (.clarify, "unresolved_conflict")
  else if item.retrievalIntent = .current ∧ item.status ≠ "active" then (.abstain, "not_current")
  else if item.exactTokenMatch ∨ item.structuredFieldMatch ∨
      (item.keywordChannelMatch ∧ config.crossChannelVectorFloor ≤ item.vectorSimilarity) ∨
      config.vectorOnlyFloor ≤ item.vectorSimilarity then (.eligible, "supported")
  else (.abstain, "insufficient_relevance")

/-! ## Selection -/

/-- The half-open interval in which a chunk is in force. -/
def intervalContains (chunk : ParsedChunk Score) (at' : Instant) : Bool :=
  chunk.effectiveAt ≤ at' && chunk.effectiveUntil.all fun until' => at' < until'

def scopeMatches (plan region : Option String) (chunk : ParsedChunk Score) : Bool :=
  (chunk.applicablePlan = none || chunk.applicablePlan = plan) &&
    (chunk.applicableRegion = none || chunk.applicableRegion = region)

structure SelectionOptions where
  plan : Option String
  region : Option String
  tokenBudget : Int := 1400
  maxItems : Int := 4
  now : Instant
  historical : Bool
  versionScoped : Bool

/-- The filter in front of the selection, and the guard that a citation needs a locator. -/
def admits (options : SelectionOptions) (item : RankedChunk Score) : Bool :=
  item.chunk.sourceLocator.isSome &&
    (item.chunk.status ∈ if options.historical then ["active", "deprecated"] else ["active"]) &&
    (options.versionScoped || intervalContains item.chunk options.now) &&
    scopeMatches options.plan options.region item.chunk

def scope (item : RankedChunk Score) : Option String × Option String :=
  (item.chunk.applicablePlan, item.chunk.applicableRegion)

def specificity (item : RankedChunk Score) : Nat :=
  (if item.chunk.applicablePlan.isSome then 1 else 0) +
    (if item.chunk.applicableRegion.isSome then 1 else 0)

/-- The scopes of the most specific items of a family. -/
def winningScopes (family : List (RankedChunk Score)) : List (Option String × Option String) :=
  Grouping.distinct ((family.filter fun item =>
    family.all fun other => specificity other ≤ specificity item).map scope)

def documentFamilyKey (item : RankedChunk Score) : String :=
  item.chunk.documentFamilyKey

/-- The items of each family, the families in the order of their first items. -/
def families (items : List (RankedChunk Score)) : List (List (RankedChunk Score)) :=
  (Grouping.distinct (items.map documentFamilyKey)).map (Grouping.group documentFamilyKey items)

/-- The reasons that have been written, each under the id of its candidate. -/
abbrev Omissions : Type :=
  List (String × String)

def omitAll (reason : String) (items : List (RankedChunk Score)) : Omissions :=
  items.map fun item => (item.chunkId, reason)

/-- The items of the winning scopes. A family whose most specific items have several scopes ends
the selection. -/
def scopeFamilies : List (List (RankedChunk Score)) →
    Except Omissions (List (RankedChunk Score) × Omissions)
  | [] => .ok ([], [])
  | family :: rest =>
      match winningScopes family with
      | [winningScope] =>
          let winners := family.filter fun item => scope item = winningScope
          let losers := omitAll "less_specific_scope"
            (family.filter fun item => scope item ≠ winningScope)
          match scopeFamilies rest with
          | .error omitted => .error (losers ++ omitted)
          | .ok (others, omitted) => .ok (winners ++ others, losers ++ omitted)
      | _ => .error (omitAll "scope_specificity_ambiguous" family)

def evidenceScore (item : RankedChunk Score) : Score :=
  item.rerankScore.getD item.rrfScore

/-- The order of the evidence: by score, by authority, by date. -/
def evidenceBefore (left right : RankedChunk Score) : Prop :=
  evidenceScore right < evidenceScore left ∨ evidenceScore left = evidenceScore right ∧
    (right.chunk.authorityLevel < left.chunk.authorityLevel ∨
      left.chunk.authorityLevel = right.chunk.authorityLevel ∧
        doubles.timestamp right.chunk.effectiveAt ≤ doubles.timestamp left.chunk.effectiveAt)

instance (left right : RankedChunk Score) : Decidable (evidenceBefore doubles left right) :=
  inferInstanceAs (Decidable (_ ∨ _))

/-- Two versions of one section. -/
def sectionConflict (items : List (RankedChunk Score)) : Bool :=
  items.any fun item => items.any fun other =>
    item.chunk.documentId = other.chunk.documentId &&
      item.chunk.sectionPath = other.chunk.sectionPath &&
      item.chunk.version ≠ other.chunk.version

/-- Why an item is not selected behind these. -/
def refusalOf (tokenBudget maxItems : Int) (selected : List (RankedChunk Score))
    (item : RankedChunk Score) : Option String :=
  if item.chunk.contentHash ∈ selected.map fun other => other.chunk.contentHash then
    some "duplicate_content_hash"
  else if !selected.isEmpty ∧
      tokenBudget < (selected.map fun other => other.chunk.tokenCount).sum +
        item.chunk.tokenCount then
    some "evidence_token_budget_exceeded"
  else if maxItems ≤ selected.length then some "evidence_item_limit_reached"
  else none

/-- The loop over the ordered items, from what has been selected so far. -/
def pick (tokenBudget maxItems : Int) : List (RankedChunk Score) → List (RankedChunk Score) →
    List (RankedChunk Score) × Omissions
  | selected, [] => (selected, [])
  | selected, item :: rest =>
      match refusalOf tokenBudget maxItems selected item with
      | some reason =>
          let later := pick tokenBudget maxItems selected rest
          (later.1, (item.chunkId, reason) :: later.2)
      | none => pick tokenBudget maxItems (selected ++ [item]) rest

def citationOf (item : RankedChunk Score) : KnowledgeCitation where
  documentId := item.chunk.documentId
  chunkId := item.chunk.chunkId
  title := item.chunk.title
  sectionPath := item.chunk.sectionPath
  version := item.chunk.version
  effectiveAt := item.chunk.effectiveAt
  excerpt := item.chunk.content.take 240
  contentHash := item.chunk.contentHash
  sourceLocator := item.chunk.sourceLocator

/-- The evidence of the selected items. -/
def evidenceOf (eligible selected : List (RankedChunk Score)) : EvidenceSet Score :=
  if selected.isEmpty then
    { chunks := [], citations := [], refusalReason := some "insufficient_current_evidence" }
  else
    { chunks := selected
      citations := selected.map citationOf
      conflict := sectionConflict eligible
      refusalReason :=
        if sectionConflict eligible then some "conflicting_current_evidence" else none }

/-- `select_evidence`, with the reasons that it writes into the candidates. -/
def selectEvidence (options : SelectionOptions) (candidates : List (RankedChunk Score)) :
    EvidenceSet Score × Omissions :=
  match scopeFamilies (families (candidates.filter (admits options))) with
  | .error omitted =>
      ({ chunks := [], citations := [], conflict := true,
         refusalReason := some "historical_interval_ambiguous" }, omitted)
  | .ok (winners, unspecific) =>
      let eligible := winners.insertionSort (evidenceBefore doubles)
      let picked := pick options.tokenBudget options.maxItems [] eligible
      (evidenceOf eligible picked.1, unspecific ++ picked.2)

end

/-! ## The candidates of a fusion -/

section

variable {Score : Type} {doubles : Doubles Score}

/-- Each candidate stands under its id. -/
def Filed (merged : List (String × RankedChunk Score)) : Prop :=
  (merged.map Prod.fst).Nodup ∧ ∀ entry ∈ merged, entry.2.chunkId = entry.1

theorem Filed.recallHit {merged : List (String × RankedChunk Score)}
    {hit : Nat → ParsedChunk Score → RankedChunk Score → RankedChunk Score}
    (keeps : ∀ rank chunk item, (hit rank chunk item).chunkId = item.chunkId)
    (filed : Filed merged) (ranked : ParsedChunk Score × Nat) :
    Filed (recallHit doubles hit merged ranked) := by
  refine ⟨assign_nodup_keys _ _ filed.1, ?_⟩
  intro entry member
  rcases mem_assign member with old | new
  · exact filed.2 entry old
  · rw [new]
    dsimp only
    rw [keeps]
    cases held : merged.lookup ranked.1.chunkId with
    | none => rfl
    | some item => exact filed.2 _ (mem_of_lookup held)

theorem Filed.foldl {hit : Nat → ParsedChunk Score → RankedChunk Score → RankedChunk Score}
    (keeps : ∀ rank chunk item, (hit rank chunk item).chunkId = item.chunkId)
    (hits : List (ParsedChunk Score × Nat)) {merged : List (String × RankedChunk Score)}
    (filed : Filed merged) : Filed (hits.foldl (Retrieval.recallHit doubles hit) merged) := by
  induction hits generalizing merged with
  | nil => exact filed
  | cons ranked rest induction => exact induction (filed.recallHit keeps ranked)

theorem chunkId_keywordHit (rank : Nat) (chunk : ParsedChunk Score) (item : RankedChunk Score) :
    (keywordHit doubles rank chunk item).chunkId = item.chunkId := by
  unfold keywordHit RankedChunk.chunkId
  dsimp only
  split <;> rfl

theorem mergedHits_filed (vector keyword : List (ParsedChunk Score)) :
    Filed (mergedHits doubles vector keyword) := by
  apply Filed.foldl chunkId_keywordHit
  apply @Filed.foldl _ _ (vectorHit doubles) fun _ _ _ => rfl
  refine ⟨List.nodup_nil, ?_⟩
  intro entry member
  cases member

/-- A fusion has one candidate for each id. -/
theorem reciprocalRankFusion_distinct [LinearOrder Score]
    (vector keyword : List (ParsedChunk Score)) :
    ((reciprocalRankFusion doubles vector keyword).map RankedChunk.chunkId).Nodup := by
  have filed := @mergedHits_filed _ doubles vector keyword
  have keys : ((mergedHits doubles vector keyword).map Prod.snd).map RankedChunk.chunkId =
      (mergedHits doubles vector keyword).map Prod.fst := by
    rw [List.map_map]
    exact List.map_congr_left filed.2
  unfold reciprocalRankFusion
  dsimp only
  simp only [decide_not]
  rw [((List.filter_append_perm _ _).map _).nodup_iff,
    ((List.perm_insertionSort _ _).map _).nodup_iff, List.map_map]
  have same : (RankedChunk.chunkId ∘ fun item : RankedChunk Score =>
      { item with rrfScore := doubles.add item.rrfScore (doubles.coherenceWeight
        (coherence doubles ((mergedHits doubles vector keyword).map Prod.snd)
          item.chunk.documentId)) }) = RankedChunk.chunkId := rfl
  rw [same, keys]
  exact filed.1

/-! ## Families -/

/-- Two most specific candidates of one family have different scopes. -/
def Contested (items : List (RankedChunk Score)) : Prop :=
  ∃ first ∈ items, ∃ second ∈ items, documentFamilyKey first = documentFamilyKey second ∧
    scope first ≠ scope second ∧
    ∀ other ∈ items, documentFamilyKey other = documentFamilyKey first →
      specificity other ≤ specificity first ∧ specificity other ≤ specificity second

theorem mem_winningScopes {family : List (RankedChunk Score)}
    {wanted : Option String × Option String} :
    wanted ∈ winningScopes family ↔
      ∃ item ∈ family, (∀ other ∈ family, specificity other ≤ specificity item) ∧
        scope item = wanted := by
  simp only [winningScopes, Grouping.mem_distinct, List.mem_map, List.mem_filter,
    List.all_eq_true, decide_eq_true_eq, and_assoc]

theorem exists_most_specific {family : List (RankedChunk Score)} (nonempty : family ≠ []) :
    ∃ item ∈ family, ∀ other ∈ family, specificity other ≤ specificity item := by
  induction family with
  | nil => exact absurd rfl nonempty
  | cons item rest induction =>
      by_cases last : rest = []
      · subst last
        refine ⟨item, List.mem_cons_self, ?_⟩
        intro other member
        rw [List.mem_singleton.mp member]
      · rcases induction last with ⟨best, member, most⟩
        rcases Nat.le_total (specificity item) (specificity best) with lower | higher
        · refine ⟨best, List.mem_cons_of_mem _ member, ?_⟩
          intro other otherMember
          rcases List.mem_cons.mp otherMember with same | inRest
          · exact same ▸ lower
          · exact most other inRest
        · refine ⟨item, List.mem_cons_self, ?_⟩
          intro other otherMember
          rcases List.mem_cons.mp otherMember with same | inRest
          · rw [same]
          · exact (most other inRest).trans higher

theorem families_flatten_perm (items : List (RankedChunk Score)) :
    (families items).flatten.Perm items := by
  unfold families
  rw [← List.flatMap_def]
  apply Grouping.flatMap_group_perm (Grouping.nodup_distinct _)
  intro item member
  exact Grouping.mem_distinct.mpr (List.mem_map_of_mem member)

theorem mem_families {items family : List (RankedChunk Score)} :
    family ∈ families items ↔ ∃ item ∈ items,
      family = Grouping.group documentFamilyKey items (documentFamilyKey item) := by
  simp only [families, List.mem_map, Grouping.mem_distinct]
  constructor
  · intro member
    rcases member with ⟨wanted, ⟨item, inItems, rfl⟩, rfl⟩
    exact ⟨item, inItems, rfl⟩
  · intro member
    rcases member with ⟨item, inItems, rfl⟩
    exact ⟨_, ⟨item, inItems, rfl⟩, rfl⟩

theorem nonempty_of_families {items family : List (RankedChunk Score)}
    (member : family ∈ families items) : family ≠ [] := by
  rcases mem_families.mp member with ⟨item, inItems, rfl⟩
  exact List.ne_nil_of_mem (Grouping.mem_group.mpr ⟨inItems, rfl⟩)

/-- The candidates are of one family just when there is one. -/
theorem families_length_eq_one_iff {items : List (RankedChunk Score)} (nonempty : items ≠ []) :
    (families items).length = 1 ↔
      ∀ item ∈ items, ∀ other ∈ items, documentFamilyKey item = documentFamilyKey other := by
  rw [families, List.length_map]
  have keys (wanted : String) : wanted ∈ Grouping.distinct (items.map documentFamilyKey) ↔
      ∃ item ∈ items, documentFamilyKey item = wanted := by
    rw [Grouping.mem_distinct, List.mem_map]
  constructor
  · intro single item member other otherMember
    rcases List.length_eq_one_iff.mp single with ⟨wanted, only⟩
    have first := (keys _).mpr ⟨item, member, rfl⟩
    have second := (keys _).mpr ⟨other, otherMember, rfl⟩
    rw [only, List.mem_singleton] at first second
    rw [first, second]
  · intro same
    rcases List.exists_mem_of_ne_nil items nonempty with ⟨item, member⟩
    rw [List.length_eq_one_iff]
    refine ⟨documentFamilyKey item, ?_⟩
    apply List.perm_singleton.mp
    rw [List.perm_ext_iff_of_nodup (Grouping.nodup_distinct _) (List.nodup_singleton _)]
    intro wanted
    rw [keys, List.mem_singleton]
    constructor
    · intro found
      rcases found with ⟨other, otherMember, rfl⟩
      exact same other otherMember item member
    · intro equal
      exact ⟨item, member, equal.symm⟩

/-- Some family of the candidates has not one winning scope just when two contest it. -/
theorem contested_iff {items : List (RankedChunk Score)} :
    Contested items ↔ ∃ family ∈ families items, (winningScopes family).length ≠ 1 := by
  constructor
  · intro contested
    rcases contested with ⟨first, firstMember, second, secondMember, sameFamily, different, most⟩
    refine ⟨_, mem_families.mpr ⟨first, firstMember, rfl⟩, ?_⟩
    intro single
    rcases List.length_eq_one_iff.mp single with ⟨winningScope, only⟩
    have wins {item : RankedChunk Score} (member : item ∈ items)
        (ofFamily : documentFamilyKey item = documentFamilyKey first)
        (top : ∀ other ∈ items, documentFamilyKey other = documentFamilyKey first →
          specificity other ≤ specificity item) : scope item = winningScope := by
      have inScopes := mem_winningScopes.mpr ⟨item, Grouping.mem_group.mpr ⟨member, ofFamily⟩,
        fun other otherMember => (Grouping.mem_group.mp otherMember).elim (top other), rfl⟩
      rw [only, List.mem_singleton] at inScopes
      exact inScopes
    apply different
    rw [wins firstMember rfl fun other member same => (most other member same).1,
      wins secondMember sameFamily.symm fun other member same => (most other member same).2]
  · intro found
    rcases found with ⟨family, member, several⟩
    rcases mem_families.mp member with ⟨item, inItems, rfl⟩
    rcases exists_most_specific (nonempty_of_families member) with ⟨best, bestMember, most⟩
    have bestScope := mem_winningScopes.mpr ⟨best, bestMember, most, rfl⟩
    have nodup : (winningScopes (Grouping.group documentFamilyKey items
      (documentFamilyKey item))).Nodup := Grouping.nodup_distinct _
    -- Besides the scope of the best item there is another one.
    have other : ∃ wanted ∈ winningScopes (Grouping.group documentFamilyKey items
        (documentFamilyKey item)), wanted ≠ scope best := by
      by_contra alone
      apply several
      rw [List.length_eq_one_iff]
      refine ⟨scope best, List.perm_singleton.mp ?_⟩
      rw [List.perm_ext_iff_of_nodup nodup (List.nodup_singleton _)]
      intro wanted
      rw [List.mem_singleton]
      constructor
      · intro inScopes
        by_contra apart
        exact alone ⟨wanted, inScopes, apart⟩
      · intro same
        exact same ▸ bestScope
    rcases other with ⟨wanted, inScopes, apart⟩
    rcases mem_winningScopes.mp inScopes with ⟨second, secondMember, secondMost, rfl⟩
    rcases Grouping.mem_group.mp bestMember with ⟨bestItem, bestFamily⟩
    rcases Grouping.mem_group.mp secondMember with ⟨secondItem, secondFamily⟩
    refine ⟨best, bestItem, second, secondItem, bestFamily.trans secondFamily.symm,
      Ne.symm apart, ?_⟩
    intro third thirdMember same
    have inFamily := Grouping.mem_group.mpr ⟨thirdMember, same.trans bestFamily⟩
    exact ⟨most third inFamily, secondMost third inFamily⟩

/-! ## Accounts -/

theorem omitAll_ids (reason : String) (items : List (RankedChunk Score)) :
    (omitAll reason items).map Prod.fst = items.map RankedChunk.chunkId := by
  rw [omitAll, List.map_map]
  rfl

/-- Winners and losers of a scope are the family. -/
theorem filter_scope_count (family : List (RankedChunk Score))
    (winningScope : Option String × Option String) (id : String) :
    ((family.filter fun item => scope item = winningScope).map RankedChunk.chunkId).count id +
        ((family.filter fun item => scope item ≠ winningScope).map RankedChunk.chunkId).count id =
      (family.map RankedChunk.chunkId).count id := by
  have split := ((List.filter_append_perm (fun item => decide (scope item = winningScope))
    family).map RankedChunk.chunkId).count_eq id
  rw [List.map_append, List.count_append] at split
  simp only [ne_eq, decide_not]
  exact split

/-- What is written for these items and reasons. -/
def recorded (left : List (RankedChunk Score × String)) : Omissions :=
  left.map fun entry => (entry.1.chunkId, entry.2)

theorem recorded_ids (left : List (RankedChunk Score × String)) :
    (recorded left).map Prod.fst = (left.map Prod.fst).map RankedChunk.chunkId := by
  rw [recorded, List.map_map, List.map_map]
  rfl

theorem recorded_append (first second : List (RankedChunk Score × String)) :
    recorded (first ++ second) = recorded first ++ recorded second :=
  List.map_append

theorem omitAll_eq_recorded (reason : String) (items : List (RankedChunk Score)) :
    omitAll reason items = recorded (items.map fun item => (item, reason)) := by
  rw [recorded, List.map_map]
  rfl

theorem append_middle_perm {α : Type} (first second third fourth : List α) :
    ((first ++ second) ++ (third ++ fourth)).Perm ((first ++ third) ++ (second ++ fourth)) := by
  rw [List.append_assoc, List.append_assoc, ← List.append_assoc second,
    ← List.append_assoc third]
  exact (List.perm_append_comm.append_right fourth).append_left first

/-- The items of the families win, each in the one scope that wins its family, or are given a
reason. -/
theorem scopeFamilies_ok {members : List (List (RankedChunk Score))}
    {winners : List (RankedChunk Score)} {omitted : Omissions}
    (returned : scopeFamilies members = .ok (winners, omitted)) :
    (∃ left, omitted = recorded left ∧ (winners ++ left.map Prod.fst).Perm members.flatten) ∧
      (∀ family ∈ members, (winningScopes family).length = 1) ∧
      ∀ item ∈ winners, ∃ family ∈ members, item ∈ family ∧
        winningScopes family = [scope item] := by
  induction members generalizing winners omitted with
  | nil =>
      cases returned
      refine ⟨⟨[], rfl, .nil⟩, ?_, ?_⟩
      · intro family member
        cases member
      · intro item member
        cases member
  | cons family rest induction =>
      unfold scopeFamilies at returned
      split at returned
      · rename_i winningScope single
        dsimp only at returned
        split at returned
        · cases returned
        · rename_i others later laterReturned
          cases returned
          rcases induction laterReturned with ⟨⟨left, written, account⟩, singles, won⟩
          refine ⟨⟨(family.filter fun item => scope item ≠ winningScope).map
            (fun item => (item, "less_specific_scope")) ++ left, ?_, ?_⟩, ?_, ?_⟩
          · rw [recorded_append, written, omitAll_eq_recorded]
          · have split := List.filter_append_perm (fun item => decide (scope item = winningScope))
              family
            simp only [← decide_not] at split
            rw [List.map_append, List.map_map]
            change ((_ ++ others) ++ (List.map id _ ++ _)).Perm _
            rw [List.map_id, List.flatten_cons]
            exact (append_middle_perm _ _ _ _).trans (split.append account)
          · intro other member
            rcases List.mem_cons.mp member with same | inRest
            · rw [same, single]
              rfl
            · exact singles other inRest
          · intro item member
            rcases List.mem_append.mp member with here | there
            · rcases List.mem_filter.mp here with ⟨inFamily, wins⟩
              refine ⟨family, List.mem_cons_self, inFamily, ?_⟩
              rw [single, of_decide_eq_true wins]
            · rcases won item there with ⟨other, otherMember, found⟩
              exact ⟨other, List.mem_cons_of_mem _ otherMember, found⟩
      · cases returned

/-- When a family is contested, its candidates have reasons, and of the other families before it
those that do not win; the others have none. -/
theorem scopeFamilies_error {members : List (List (RankedChunk Score))} {omitted : Omissions}
    (returned : scopeFamilies members = .error omitted)
    (nonempty : ∀ family ∈ members, family ≠ []) :
    (∃ silent, (omitted.map Prod.fst ++ silent).Perm (members.flatten.map RankedChunk.chunkId) ∧
      (silent = [] ↔ members.length = 1)) ∧
      ∃ family ∈ members, (winningScopes family).length ≠ 1 := by
  induction members generalizing omitted with
  | nil => cases returned
  | cons family rest induction =>
      rcases List.forall_mem_cons.mp nonempty with ⟨present, others⟩
      unfold scopeFamilies at returned
      split at returned
      · rename_i winningScope single
        dsimp only at returned
        split at returned
        · rename_i later laterReturned
          cases returned
          rcases induction laterReturned others with ⟨⟨silent, account, _⟩, lost⟩
          refine ⟨⟨(family.filter fun item => scope item = winningScope).map RankedChunk.chunkId ++
            silent, ?_, ?_⟩, ?_⟩
          · rw [List.perm_iff_count]
            intro id
            have here := filter_scope_count family winningScope id
            have there := account.count_eq id
            rw [List.count_append] at there
            simp only [List.map_append, List.flatten_cons, omitAll_ids, List.count_append]
            omega
          · -- The winners of this family have no reason, and another family is contested.
            have winner : winningScope ∈ winningScopes family := by
              rw [single]
              exact List.mem_singleton_self _
            rcases mem_winningScopes.mp winner with ⟨item, member, _, same⟩
            have inWinners : item ∈ family.filter fun item => scope item = winningScope :=
              List.mem_filter.mpr ⟨member, decide_eq_true same⟩
            constructor
            · intro nothing
              have winnersNil := List.map_eq_nil_iff.mp (List.append_eq_nil_iff.mp nothing).1
              rw [winnersNil] at inWinners
              cases inWinners
            · intro alone
              rcases lost with ⟨other, otherMember, _⟩
              have length := List.length_pos_of_mem otherMember
              rw [List.length_cons] at alone
              omega
          · rcases lost with ⟨other, member, contested⟩
            exact ⟨other, List.mem_cons_of_mem _ member, contested⟩
        · cases returned
      · rename_i contested
        cases returned
        refine ⟨⟨rest.flatten.map RankedChunk.chunkId, ?_, ?_⟩, family, List.mem_cons_self, ?_⟩
        · rw [omitAll_ids, List.flatten_cons, List.map_append]
        · rw [List.map_eq_nil_iff, List.flatten_eq_nil_iff, List.length_cons]
          constructor
          · intro nothing
            cases rest with
            | nil => rfl
            | cons other later =>
                exact absurd (nothing other List.mem_cons_self) (others other List.mem_cons_self)
          · intro alone other member
            have length := List.length_pos_of_mem member
            omega
        · intro single
          rcases List.length_eq_one_iff.mp single with ⟨winningScope, only⟩
          exact contested winningScope only

/-- The loop selects the items it is given or leaves them with a reason. -/
theorem pick_account (tokenBudget maxItems : Int) (selected items : List (RankedChunk Score)) :
    ∃ left, (pick tokenBudget maxItems selected items).2 = recorded left ∧
      ((pick tokenBudget maxItems selected items).1 ++ left.map Prod.fst).Perm
        (selected ++ items) := by
  induction items generalizing selected with
  | nil => exact ⟨[], rfl, .refl _⟩
  | cons item rest induction =>
      unfold pick
      split
      · rename_i reason _
        rcases induction selected with ⟨left, written, account⟩
        refine ⟨(item, reason) :: left, ?_, ?_⟩
        · dsimp only
          rw [written]
          rfl
        · dsimp only
          rw [List.map_cons]
          exact List.perm_middle.trans ((account.cons item).trans List.perm_middle.symm)
      · rcases induction (selected ++ [item]) with ⟨left, written, account⟩
        refine ⟨left, written, account.trans ?_⟩
        rw [List.append_assoc]
        rfl

/-- The ids of the candidates that are in the evidence or have a reason. -/
def accountedIds (selection : EvidenceSet Score × Omissions) : List String :=
  selection.1.chunks.map RankedChunk.chunkId ++ selection.2.map Prod.fst

theorem evidenceOf_chunks (eligible selected : List (RankedChunk Score)) :
    (evidenceOf eligible selected).chunks = selected := by
  unfold evidenceOf
  split
  · rename_i nothing
    exact (List.isEmpty_iff.mp nothing).symm
  · rfl

/-- Every candidate is in the evidence or has a reason just when all of them pass the filter in
front, and all are of one family if a family is contested. -/
theorem selectEvidence_accounts [LinearOrder Score] (options : SelectionOptions)
    (candidates : List (RankedChunk Score)) :
    ∃ silent, (accountedIds (selectEvidence doubles options candidates) ++ silent).Perm
        (candidates.map RankedChunk.chunkId) ∧
      (silent = [] ↔ (∀ item ∈ candidates, admits options item = true) ∧
        (Contested candidates → ∀ item ∈ candidates, ∀ other ∈ candidates,
          documentFamilyKey item = documentFamilyKey other)) := by
  have admitted := (List.filter_append_perm (admits options) candidates).map RankedChunk.chunkId
  have whole := (families_flatten_perm (candidates.filter (admits options))).map RankedChunk.chunkId
  rw [List.map_append] at admitted
  have rejected : ((candidates.filter fun item => !admits options item).map RankedChunk.chunkId) =
      [] ↔ ∀ item ∈ candidates, admits options item = true := by
    rw [List.map_eq_nil_iff, List.filter_eq_nil_iff]
    simp
  have all (every : ∀ item ∈ candidates, admits options item = true) :
      candidates.filter (admits options) = candidates := List.filter_eq_self.mpr every
  unfold selectEvidence
  split
  · rename_i omitted contest
    rcases scopeFamilies_error contest fun family => nonempty_of_families with
      ⟨⟨silent, account, alone⟩, lost⟩
    refine ⟨silent ++ (candidates.filter fun item => !admits options item).map
      RankedChunk.chunkId, ?_, ?_⟩
    · rw [accountedIds, List.map_nil, List.nil_append, ← List.append_assoc]
      exact ((account.trans whole).append_right _).trans admitted
    · rw [List.append_eq_nil_iff, rejected, alone]
      have contested := contested_iff.mpr lost
      have nonempty : candidates.filter (admits options) ≠ [] := by
        rcases contested with ⟨first, member, _⟩
        exact List.ne_nil_of_mem member
      rw [families_length_eq_one_iff nonempty]
      constructor
      · intro both
        rcases both with ⟨same, every⟩
        rw [all every] at same
        exact ⟨every, fun _ => same⟩
      · intro both
        rcases both with ⟨every, same⟩
        rw [all every] at contested ⊢
        exact ⟨same contested, every⟩
  · rename_i winners unspecific scoping
    rcases scopeFamilies_ok scoping with ⟨⟨left, written, account⟩, singles, _⟩
    refine ⟨(candidates.filter fun item => !admits options item).map RankedChunk.chunkId, ?_, ?_⟩
    · have sorted := List.perm_insertionSort (evidenceBefore doubles) winners
      rcases pick_account options.tokenBudget options.maxItems []
        (winners.insertionSort (evidenceBefore doubles)) with ⟨passed, reasons, picked⟩
      have chosen := (picked.trans sorted).map RankedChunk.chunkId
      have ofFamilies := account.map RankedChunk.chunkId
      dsimp only
      rw [accountedIds, evidenceOf_chunks, written, reasons, ← recorded_append, recorded_ids,
        List.perm_iff_count]
      intro id
      have first := chosen.count_eq id
      have second := ofFamilies.count_eq id
      have third := whole.count_eq id
      have fourth := admitted.count_eq id
      simp only [List.map_append, List.count_append] at *
      omega
    · rw [rejected]
      constructor
      · intro every
        refine ⟨every, ?_⟩
        intro contested
        rw [← all every] at contested
        rcases contested_iff.mp contested with ⟨family, member, several⟩
        exact absurd (singles family member) several
      · exact And.left

end

end Retrieval

end SupportGuard
