import SupportGuard.Agent.CandidateAssembly
import SupportGuard.Foundation.Grouping

/-! # Binding the synthesis of a provider

`agent/proposal_assembler.py`: the references of a provider's claims are checked against the
context. A synthesis whose only faults are claims without references is repaired by deleting
these claims. -/

namespace SupportGuard

open Foundation Fallible

namespace ProviderSynthesis

/-! ## The schemas -/

structure ProviderMaterialClaim where
  text : String
  citationBindingIds : List String
  observationSourceIds : List String
  bounded : 1 ≤ text.length ∧ text.length ≤ 1000
deriving DecidableEq

structure ProviderBoundEvidenceSynthesis where
  answer : String
  materialClaims : List ProviderMaterialClaim
  bounded : 1 ≤ answer.length ∧ answer.length ≤ 4000
  claimed : materialClaims ≠ []

def validateProviderSynthesis (answer : String) (claims : List ProviderMaterialClaim) :
    Option ProviderBoundEvidenceSynthesis :=
  if valid : (1 ≤ answer.length ∧ answer.length ≤ 4000) ∧ claims ≠ [] then
    some { answer, materialClaims := claims, bounded := valid.1, claimed := valid.2 }
  else none

/-- What a provider wrote, bound to the evidence of the context. -/
structure BoundProviderSynthesis extends BoundEvidenceSynthesis where
  knowledgeCitations : List String
  businessSourceIds : List String

/-- The context that the provider was given, and what is required of its synthesis. -/
structure ProviderContext where
  str : Json → String
  casefold : List Char → List Char
  evidence : List JsonMembers
  observations : List JsonMembers
  requireKnowledgeSource : Bool := true
  requireBusinessSource : Bool := true
  requiredKnowledgeGroups : List String := []
  requiredAnswerMarkers : List String := []

inductive BindingRaise
  | typeError
  | bindingError (paths : List (List Char))
  | validationError
deriving DecidableEq

structure CitationMember where
  chunkId : String
  locatorHash : String
  evidenceGroup : String

/-! ## The context -/

namespace ProviderContext

variable (context : ProviderContext)

/-- `str(value or default)`. -/
def textOr (value : Json) (default : String) : String :=
  if value.truthy then context.str value else default

def supportsClaims (item : JsonMembers) : Bool :=
  (item.value "citation_binding_id").truthy && item.value "supporting_span_eligible" = .bool true

def citationMembership : List (String × CitationMember) :=
  (context.evidence.filter supportsClaims).foldl (fun members item =>
    assign members (context.str (item.value "citation_binding_id"))
      { chunkId := context.textOr (item.value "chunk_id") ""
        locatorHash := context.textOr (item.value "source_locator_hash") ""
        evidenceGroup := context.textOr (item.value "evidence_group") "current" }) []

def allowedCitations : List String :=
  context.citationMembership.map Prod.fst

def isBusinessRead (observation : JsonMembers) : Bool :=
  (observation.value "status").pyEq (.string "ok") &&
    !(observation.value "tool_name").pyEq (.string "search_knowledge")

/-- The sources that an observation refers to. Texts and dictionaries are iterables that hold no
dictionaries. -/
def observedSources (observation : JsonMembers) : Except BindingRaise (List String) :=
  match observation.lookup "source_refs" with
  | none => .ok []
  | some (.array refs) => .ok (refs.filterMap fun source => match source with
      | .object members =>
          if (JsonMembers.value members "source_id").truthy then
            some (context.str (JsonMembers.value members "source_id"))
          else none
      | _ => none)
  | some (.object _) => .ok []
  | some (.string _) => .ok []
  | some _ => .error .typeError

def allowedBusinessSources : Except BindingRaise (List String) := do
  let sources ← (context.observations.filter isBusinessRead).mapM context.observedSources
  .ok sources.flatten

end ProviderContext

/-! ## Error paths -/

def claimStart : List Char :=
  "material_claims.".toList

def claimPath (index : Nat) : List Char :=
  claimStart ++ Nat.toDigits 10 index

def unknownCitation (index : Nat) : List Char :=
  claimPath index ++ ".citation_binding_ids:unknown_context_citation".toList

def unknownSource (index : Nat) : List Char :=
  claimPath index ++ ".observation_source_ids:unknown_business_source".toList

def referenceSuffix : List Char :=
  ":support_reference_required".toList

def referenceRequired (index : Nat) : List Char :=
  claimPath index ++ referenceSuffix

def ProviderMaterialClaim.isUnreferenced (claim : ProviderMaterialClaim) : Bool :=
  claim.citationBindingIds.isEmpty && claim.observationSourceIds.isEmpty

def ProviderMaterialClaim.citesWithin (claim : ProviderMaterialClaim) (citations : List String) :
    Bool :=
  claim.citationBindingIds.all (· ∈ citations)

def ProviderMaterialClaim.readsWithin (claim : ProviderMaterialClaim) (sources : List String) :
    Bool :=
  claim.observationSourceIds.all (· ∈ sources)

def claimErrors (citations sources : List String) (claim : ProviderMaterialClaim × Nat) :
    List (List Char) :=
  (if claim.1.citesWithin citations then [] else [unknownCitation claim.2]) ++
    (if claim.1.readsWithin sources then [] else [unknownSource claim.2]) ++
      if claim.1.isUnreferenced then [referenceRequired claim.2] else []

/-- Lines of text with line feeds between them. -/
def joinTexts (texts : List String) : String :=
  "\n".intercalate texts

def publicClaimText (synthesis : ProviderBoundEvidenceSynthesis) : List Char :=
  let texts := (synthesis.materialClaims.map fun claim => stripSpace claim.text.toList).filter
    (· ≠ [])
  let joined := List.intercalate ['\n'] texts
  if joined = [] then synthesis.answer.toList else joined

/-- The errors that concern the claims together. -/
def sharedErrors (context : ProviderContext) (sources : List String)
    (synthesis : ProviderBoundEvidenceSynthesis) : List (List Char) :=
  let citations := (synthesis.materialClaims.flatMap
    ProviderMaterialClaim.citationBindingIds).filter (· ∈ context.allowedCitations)
  let reads := (synthesis.materialClaims.flatMap
    ProviderMaterialClaim.observationSourceIds).filter (· ∈ sources)
  let groups := citations.filterMap fun citation =>
    (context.citationMembership.lookup citation).map CitationMember.evidenceGroup
  let text := context.casefold (publicClaimText synthesis)
  (if context.requireKnowledgeSource ∧ citations = [] then
    ["material_claims:citation_binding_required".toList] else []) ++
  (if context.requireBusinessSource ∧ reads = [] then
    ["material_claims:business_source_required".toList] else []) ++
  ((Grouping.distinct (context.requiredKnowledgeGroups.filter (· ≠ ""))).filter
    (· ∉ groups)).map (fun group =>
      "material_claims:citation_group_required:".toList ++ group.toList) ++
  ((Grouping.distinct (context.requiredAnswerMarkers.filter (· ≠ ""))).filter fun marker =>
    ¬context.casefold marker.toList <:+: text).map fun marker =>
      "material_claims:required_marker_missing:".toList ++ marker.toList

/-- `provider_synthesis_binding_error_paths`. -/
def bindingErrorPaths (context : ProviderContext) (synthesis : ProviderBoundEvidenceSynthesis) :
    Except BindingRaise (List (List Char)) := do
  let sources ← context.allowedBusinessSources
  .ok (Grouping.distinct
    (synthesis.materialClaims.zipIdx.flatMap (claimErrors context.allowedCitations sources) ++
      sharedErrors context sources synthesis))

/-! ## Binding -/

def sortedSet (texts : List String) : List String :=
  texts.dedup.insertionSort (· ≤ ·)

def boundClaim (context : ProviderContext) (claim : ProviderMaterialClaim) : MaterialClaim where
  text := claim.text
  citationBindingIds := sortedSet claim.citationBindingIds
  knowledgeLocatorHashes := sortedSet ((claim.citationBindingIds.filterMap fun citation =>
    (context.citationMembership.lookup citation).map CitationMember.locatorHash).filter (· ≠ ""))
  observationSourceIds := sortedSet claim.observationSourceIds

/-- `bind_provider_synthesis`. -/
def bindProviderSynthesis (context : ProviderContext)
    (synthesis : ProviderBoundEvidenceSynthesis) :
    Except BindingRaise BoundProviderSynthesis := do
  let errors ← bindingErrorPaths context synthesis
  refuseWhen (errors ≠ []) (.bindingError errors)
  let citations := synthesis.materialClaims.flatMap ProviderMaterialClaim.citationBindingIds
  let sources := synthesis.materialClaims.flatMap ProviderMaterialClaim.observationSourceIds
  refuseWhen (∃ citation ∈ citations, citation.length = 0 ∨ 64 < citation.length) .validationError
  .ok { answer := synthesis.answer
        knowledgeChunkIds := sortedSet ((citations.filterMap fun citation =>
          (context.citationMembership.lookup citation).map CitationMember.chunkId).filter (· ≠ ""))
        knowledgeCitations := sortedSet citations
        businessSourceIds := sortedSet sources
        materialClaims := synthesis.materialClaims.map (boundClaim context) }

/-! ## Repair -/

/-- The index in the path of a claim without references. -/
def unreferencedIndex? (claims : List ProviderMaterialClaim) (error : List Char) : Option Nat :=
  if claimStart <+: error ∧ referenceSuffix <:+ error then
    let rawIndex := (error.take (error.length - referenceSuffix.length)).drop claimStart.length
    if rawIndex ≠ [] ∧ rawIndex.all Char.isDigit then
      let index := Nat.ofDigitChars 10 rawIndex 0
      match claims[index]? with
      | none => none
      | some claim => if claim.isUnreferenced then some index else none
    else none
  else none

/-- The loop over the errors, from the indices that have been found. -/
def unreferencedIndices (claims : List ProviderMaterialClaim) :
    List Nat → List (List Char) → Option (List Nat)
  | indices, [] => some indices
  | indices, error :: rest =>
      match unreferencedIndex? claims error with
      | none => none
      | some index =>
          if index ∈ indices then none else unreferencedIndices claims (indices ++ [index]) rest

structure PrunedSynthesis where
  canonical : ProviderBoundEvidenceSynthesis
  bound : BoundProviderSynthesis
  prunedIndices : List Nat

/-- `canonicalize_unreferenced_provider_claims`. -/
def canonicalizeUnreferencedProviderClaims (context : ProviderContext)
    (synthesis : ProviderBoundEvidenceSynthesis) :
    Except BindingRaise (Option PrunedSynthesis) := do
  let errors ← bindingErrorPaths context synthesis
  if errors = [] then return none
  match unreferencedIndices synthesis.materialClaims [] errors with
  | none => return none
  | some indices =>
      let prunedIndices := indices.insertionSort (· ≤ ·)
      let retained := (synthesis.materialClaims.zipIdx.filter fun claim =>
        claim.2 ∉ prunedIndices).map Prod.fst
      if retained = [] then return none
      match validateProviderSynthesis
          (joinTexts (retained.map ProviderMaterialClaim.text)) retained with
      | none => return none
      | some canonical =>
          match bindProviderSynthesis context canonical with
          | .error _ => return none
          | .ok bound => return some { canonical, bound, prunedIndices }

/-! ## Paths of indices -/

section

variable {claims : List ProviderMaterialClaim} {claim : ProviderMaterialClaim} {index : Nat}

theorem unreferencedIndex?_spec {error : List Char}
    (found : unreferencedIndex? claims error = some index) :
    ∃ claim, claims[index]? = some claim ∧ claim.isUnreferenced = true := by
  unfold unreferencedIndex? at found
  split at found
  · dsimp only at found
    split at found
    · split at found
      · cases found
      · rename_i claim held
        split at found
        · rename_i unreferenced
          cases found
          exact ⟨claim, held, unreferenced⟩
        · cases found
    · cases found
  · cases found

theorem middle_eq (front middle back : List Char) :
    ((front ++ middle ++ back).take ((front ++ middle ++ back).length - back.length)).drop
      front.length = middle := by
  rw [List.length_append, Nat.add_sub_cancel, List.take_left, List.drop_left]

/-- The path of a claim without references is read back. -/
theorem unreferencedIndex?_referenceRequired (held : claims[index]? = some claim)
    (unreferenced : claim.isUnreferenced = true) :
    unreferencedIndex? claims (referenceRequired index) = some index := by
  have digits : Nat.toDigits 10 index ≠ [] ∧ (Nat.toDigits 10 index).all Char.isDigit = true := by
    refine ⟨Nat.toDigits_ne_nil, ?_⟩
    rw [List.all_eq_true]
    intro character member
    exact Nat.isDigit_of_mem_toDigits (by omega) (by omega) member
  have shape : claimStart <+: referenceRequired index ∧
      referenceSuffix <:+ referenceRequired index := by
    constructor
    · rw [referenceRequired, claimPath, List.append_assoc]
      exact List.prefix_append _ _
    · exact List.suffix_append _ _
  unfold unreferencedIndex?
  rw [if_pos shape]
  dsimp only
  rw [referenceRequired, claimPath, middle_eq, if_pos digits, Nat.ofDigitChars_ten_toDigits, held]
  dsimp only
  rw [if_pos unreferenced]

theorem getLast?_referenceSuffix : referenceSuffix.getLast? = some 'd' := by
  decide

theorem unreferencedIndex?_of_getLast {front back : List Char} {last : Char}
    (ends : back.getLast? = some last) (other : last ≠ 'd') :
    unreferencedIndex? claims (front ++ back) = none := by
  unfold unreferencedIndex?
  rw [if_neg]
  intro shape
  rcases shape.2 with ⟨before, whole⟩
  have same := congrArg List.getLast? whole
  rw [List.getLast?_append, List.getLast?_append, getLast?_referenceSuffix, ends,
    Option.some_or, Option.some_or, Option.some.injEq] at same
  exact other same.symm

theorem unreferencedIndex?_unknownCitation :
    unreferencedIndex? claims (unknownCitation index) = none := by
  have ends : ".citation_binding_ids:unknown_context_citation".toList.getLast? = some 'n' := by
    decide
  have different : 'n' ≠ 'd' := by decide
  exact unreferencedIndex?_of_getLast ends different

theorem unreferencedIndex?_unknownSource :
    unreferencedIndex? claims (unknownSource index) = none := by
  have ends : ".observation_source_ids:unknown_business_source".toList.getLast? = some 'e' := by
    decide
  have different : 'e' ≠ 'd' := by decide
  exact unreferencedIndex?_of_getLast ends different

/-- The loop returns when each error is the path of another claim without references. -/
theorem unreferencedIndices_spec {indices found : List Nat} {errors : List (List Char)}
    (returned : unreferencedIndices claims indices errors = some found)
    (distinct : indices.Nodup) :
    found.Nodup ∧ indices ⊆ found ∧
      (∀ error ∈ errors, ∃ index ∈ found, unreferencedIndex? claims error = some index) ∧
      ∀ index ∈ found, index ∈ indices ∨ ∃ error ∈ errors,
        unreferencedIndex? claims error = some index := by
  induction errors generalizing indices with
  | nil =>
      cases returned
      refine ⟨distinct, List.Subset.refl _, ?_, fun index member => .inl member⟩
      intro error member
      cases member
  | cons error rest induction =>
      unfold unreferencedIndices at returned
      split at returned
      · cases returned
      · rename_i index parsed
        split at returned
        · cases returned
        · rename_i new
          have grown : (indices ++ [index]).Nodup := by
            rw [List.nodup_append]
            refine ⟨distinct, List.nodup_singleton index, ?_⟩
            intro known member other otherMember same
            rw [same, List.mem_singleton.mp otherMember] at member
            exact new member
          rcases induction returned grown with ⟨once, kept, every, only⟩
          refine ⟨once, fun _ member => kept (List.mem_append_left _ member), ?_, ?_⟩
          · intro other member
            rcases List.mem_cons.mp member with same | later
            · refine ⟨index, kept (List.mem_append_right _ (List.mem_singleton_self index)), ?_⟩
              rw [same, parsed]
            · exact every other later
          · intro other member
            rcases only other member with before | ⟨later, laterMember, laterParsed⟩
            · rcases List.mem_append.mp before with old | this
              · exact .inl old
              · right
                refine ⟨error, List.mem_cons_self, ?_⟩
                rw [List.mem_singleton.mp this, parsed]
            · exact .inr ⟨later, List.mem_cons_of_mem _ laterMember, laterParsed⟩

end

/-! ## What the errors say -/

section

variable {context : ProviderContext} {synthesis : ProviderBoundEvidenceSynthesis}
  {errors : List (List Char)}

theorem bindingErrorPaths_eq (returned : bindingErrorPaths context synthesis = .ok errors) :
    ∃ sources, context.allowedBusinessSources = .ok sources ∧ ∀ error, error ∈ errors ↔
      (∃ claim ∈ synthesis.materialClaims.zipIdx,
        error ∈ claimErrors context.allowedCitations sources claim) ∨
      error ∈ sharedErrors context sources synthesis := by
  rcases bind_eq_ok_iff.mp returned with ⟨sources, allowed, equal⟩
  cases equal
  refine ⟨sources, allowed, ?_⟩
  intro error
  rw [Grouping.mem_distinct, List.mem_append, List.mem_flatMap]

theorem mem_zipIdx_claims {claim : ProviderMaterialClaim} {index : Nat} :
    (claim, index) ∈ synthesis.materialClaims.zipIdx ↔
      synthesis.materialClaims[index]? = some claim :=
  List.mem_zipIdx_iff_getElem?

theorem referenceRequired_mem (returned : bindingErrorPaths context synthesis = .ok errors)
    {claim : ProviderMaterialClaim} {index : Nat}
    (held : synthesis.materialClaims[index]? = some claim)
    (unreferenced : claim.isUnreferenced = true) : referenceRequired index ∈ errors := by
  rcases bindingErrorPaths_eq returned with ⟨sources, _, mem_errors⟩
  rw [mem_errors]
  refine .inl ⟨(claim, index), mem_zipIdx_claims.mpr held, ?_⟩
  unfold claimErrors
  rw [if_pos unreferenced]
  exact List.mem_append_right _ (List.mem_singleton_self _)

/-- A claim with a reference outside the context has an error that is no missing reference. -/
theorem unknown_mem (returned : bindingErrorPaths context synthesis = .ok errors)
    {sources : List String} (allowed : context.allowedBusinessSources = .ok sources)
    {claim : ProviderMaterialClaim} {index : Nat}
    (held : synthesis.materialClaims[index]? = some claim)
    (outside : claim.citesWithin context.allowedCitations = false ∨
      claim.readsWithin sources = false) :
    ∃ error ∈ errors, ∀ claims, unreferencedIndex? claims error = none := by
  rcases bindingErrorPaths_eq returned with ⟨sources', allowed', mem_errors⟩
  rw [allowed] at allowed'
  cases allowed'
  rcases outside with cites | reads
  · refine ⟨unknownCitation index, (mem_errors _).mpr (.inl ⟨(claim, index),
      mem_zipIdx_claims.mpr held, ?_⟩), fun claims => unreferencedIndex?_unknownCitation⟩
    unfold claimErrors
    rw [if_neg (by rw [cites]; exact Bool.false_ne_true)]
    exact List.mem_append_left _ (List.mem_append_left _ (List.mem_singleton_self _))
  · refine ⟨unknownSource index, (mem_errors _).mpr (.inl ⟨(claim, index),
      mem_zipIdx_claims.mpr held, ?_⟩), fun claims => unreferencedIndex?_unknownSource⟩
    unfold claimErrors
    rw [if_neg (c := claim.readsWithin sources = true)
      (by rw [reads]; exact Bool.false_ne_true)]
    exact List.mem_append_left _ (List.mem_append_right _ (List.mem_singleton_self _))

/-- Without errors, every claim stays within the context. -/
theorem within_of_no_errors (returned : bindingErrorPaths context synthesis = .ok []) :
    ∃ sources, context.allowedBusinessSources = .ok sources ∧
      ∀ claim ∈ synthesis.materialClaims, claim.citesWithin context.allowedCitations = true ∧
        claim.readsWithin sources = true := by
  rcases bindingErrorPaths_eq returned with ⟨sources, allowed, mem_errors⟩
  refine ⟨sources, allowed, ?_⟩
  intro claim member
  rcases List.getElem?_of_mem member with ⟨index, held⟩
  by_contra outside
  have either : claim.citesWithin context.allowedCitations = false ∨
      claim.readsWithin sources = false := by
    by_contra neither
    rcases not_or.mp neither with ⟨cites, reads⟩
    exact outside ⟨by simpa using cites, by simpa using reads⟩
  rcases unknown_mem returned allowed held either with ⟨error, impossible, _⟩
  cases impossible

/-! ## The repair -/

theorem mem_sortedSet {texts : List String} {text : String} :
    text ∈ sortedSet texts ↔ text ∈ texts := by
  rw [sortedSet, List.mem_insertionSort, List.mem_dedup]

/-- The references of what is bound are allowed in the context. -/
structure Allowed (context : ProviderContext) (bound : BoundProviderSynthesis) : Prop where
  citations : ∀ citation ∈ bound.knowledgeCitations, citation ∈ context.allowedCitations
  sources : ∃ sources, context.allowedBusinessSources = .ok sources ∧
    (∀ source ∈ bound.businessSourceIds, source ∈ sources) ∧
    ∀ claim ∈ bound.materialClaims, ∀ source ∈ claim.observationSourceIds, source ∈ sources
  claims : ∀ claim ∈ bound.materialClaims, ∀ citation ∈ claim.citationBindingIds,
    citation ∈ context.allowedCitations

theorem bindProviderSynthesis_allowed {bound : BoundProviderSynthesis}
    (returned : bindProviderSynthesis context synthesis = .ok bound) :
    bindingErrorPaths context synthesis = .ok [] ∧ Allowed context bound := by
  rcases bind_eq_ok_iff.mp returned with ⟨errors, paths, returned⟩
  rw [refuseWhen_bind_eq_ok_iff, refuseWhen_bind_eq_ok_iff] at returned
  rcases returned with ⟨none, _, equal⟩
  rw [not_not.mp none] at paths
  cases equal
  rcases within_of_no_errors paths with ⟨sources, allowed, within⟩
  have cited (claim : ProviderMaterialClaim) (member : claim ∈ synthesis.materialClaims)
      (citation : String) (cites : citation ∈ claim.citationBindingIds) :
      citation ∈ context.allowedCitations :=
    of_decide_eq_true (List.all_eq_true.mp (within claim member).1 citation cites)
  have read (claim : ProviderMaterialClaim) (member : claim ∈ synthesis.materialClaims)
      (source : String) (reads : source ∈ claim.observationSourceIds) : source ∈ sources :=
    of_decide_eq_true (List.all_eq_true.mp (within claim member).2 source reads)
  refine ⟨paths, ?_, ⟨sources, allowed, ?_, ?_⟩, ?_⟩
  · intro citation member
    rcases List.mem_flatMap.mp (mem_sortedSet.mp member) with ⟨claim, claimMember, cites⟩
    exact cited claim claimMember citation cites
  · intro source member
    rcases List.mem_flatMap.mp (mem_sortedSet.mp member) with ⟨claim, claimMember, reads⟩
    exact read claim claimMember source reads
  · intro claim member source reads
    rcases List.mem_map.mp member with ⟨original, originalMember, rfl⟩
    exact read original originalMember source (mem_sortedSet.mp reads)
  · intro claim member citation cites
    rcases List.mem_map.mp member with ⟨original, originalMember, rfl⟩
    exact cited original originalMember citation (mem_sortedSet.mp cites)

theorem validateProviderSynthesis_eq_some {answer : String} {claims : List ProviderMaterialClaim}
    {canonical : ProviderBoundEvidenceSynthesis}
    (validated : validateProviderSynthesis answer claims = some canonical) :
    canonical.answer = answer ∧ canonical.materialClaims = claims := by
  unfold validateProviderSynthesis at validated
  split at validated
  · cases validated
    exact ⟨rfl, rfl⟩
  · cases validated

/-- Only claims without references are deleted, and what stays is bound to the context. -/
structure Prunes (context : ProviderContext) (synthesis : ProviderBoundEvidenceSynthesis)
    (result : PrunedSynthesis) : Prop where
  increasing : result.prunedIndices.Pairwise (· < ·)
  pruned : ∀ index, index ∈ result.prunedIndices ↔ ∃ claim,
    synthesis.materialClaims[index]? = some claim ∧ claim.isUnreferenced = true
  retained : result.canonical.materialClaims =
    synthesis.materialClaims.filter fun claim => !claim.isUnreferenced
  answer : result.canonical.answer =
    joinTexts (result.canonical.materialClaims.map ProviderMaterialClaim.text)
  noErrors : bindingErrorPaths context result.canonical = .ok []
  allowed : Allowed context result.bound
  settled : canonicalizeUnreferencedProviderClaims context result.canonical = .ok none

theorem canonicalize_of_no_errors (paths : bindingErrorPaths context synthesis = .ok []) :
    canonicalizeUnreferencedProviderClaims context synthesis = .ok none := by
  unfold canonicalizeUnreferencedProviderClaims
  rw [paths]
  rfl

theorem unreferencedIndices_iff {indices : List Nat}
    (paths : bindingErrorPaths context synthesis = .ok errors)
    (parsed : unreferencedIndices synthesis.materialClaims [] errors = some indices)
    (index : Nat) : index ∈ indices ↔ ∃ claim,
      synthesis.materialClaims[index]? = some claim ∧ claim.isUnreferenced = true := by
  rcases unreferencedIndices_spec parsed List.nodup_nil with ⟨_, _, every, only⟩
  constructor
  · intro member
    rcases only index member with impossible | ⟨error, _, read⟩
    · cases impossible
    · exact unreferencedIndex?_spec read
  · intro found
    rcases found with ⟨claim, held, unreferenced⟩
    rcases every _ (referenceRequired_mem paths held unreferenced) with ⟨other, member, read⟩
    rw [unreferencedIndex?_referenceRequired held unreferenced, Option.some.injEq] at read
    exact read ▸ member

theorem retained_eq {indices : List Nat}
    (unreferenced : ∀ index, index ∈ indices ↔ ∃ claim,
      synthesis.materialClaims[index]? = some claim ∧ claim.isUnreferenced = true) :
    (synthesis.materialClaims.zipIdx.filter fun claim => claim.2 ∉ indices).map Prod.fst =
      synthesis.materialClaims.filter fun claim => !claim.isUnreferenced := by
  have same : (synthesis.materialClaims.zipIdx.filter fun claim => claim.2 ∉ indices) =
      synthesis.materialClaims.zipIdx.filter
        ((fun claim : ProviderMaterialClaim => !claim.isUnreferenced) ∘ Prod.fst) := by
    apply List.filter_congr
    intro claim member
    have held := mem_zipIdx_claims.mp member
    rw [Bool.eq_iff_iff, decide_eq_true_eq, unreferenced, Function.comp_apply,
      Bool.not_eq_true']
    constructor
    · intro absent
      by_contra bare
      exact absent ⟨claim.1, held, by simpa using bare⟩
    · intro referenced found
      rcases found with ⟨other, otherHeld, bare⟩
      rw [held, Option.some.injEq] at otherHeld
      rw [otherHeld, bare] at referenced
      cases referenced
  rw [same, ← List.filter_map, List.zipIdx_map_fst]

end

/-! Of two claims the second one has no reference. -/

def citedContext : ProviderContext where
  str := Json.toStr
  casefold := id
  evidence := [[("citation_binding_id", .string "c1"), ("supporting_span_eligible", .bool true)]]
  observations := []
  requireBusinessSource := false

theorem limit_bounded : 1 ≤ "limit".length ∧ "limit".length ≤ 1000 := by
  decide

def citedClaim : ProviderMaterialClaim where
  text := "limit"
  citationBindingIds := ["c1"]
  observationSourceIds := []
  bounded := limit_bounded

def bareClaim : ProviderMaterialClaim :=
  { citedClaim with citationBindingIds := [] }

theorem limit_answers : 1 ≤ "limit".length ∧ "limit".length ≤ 4000 := by
  decide

def bareSynthesis : ProviderBoundEvidenceSynthesis where
  answer := "limit"
  materialClaims := [citedClaim, bareClaim]
  bounded := limit_answers
  claimed := List.cons_ne_nil _ _

/-- The indices that a repair deletes, if there is one. -/
def repairedIndices : Except BindingRaise (Option PrunedSynthesis) → Option (List Nat)
  | .ok (some result) => some result.prunedIndices
  | _ => none

theorem bareSynthesis_repaired : repairedIndices
    (canonicalizeUnreferencedProviderClaims citedContext bareSynthesis) = some [1] := by
  decide +kernel

end ProviderSynthesis

end SupportGuard
