import SupportGuard.Agent.Obligations
import SupportGuard.Foundation.Representatives

/-! # The canonical references of a candidate

`_canonicalize_publication_references`: each claim keeps one binding for each document version
and evidence group that it cites, and the references of the candidate are derived from its
claims. The evidence is a list of dictionaries; what `float` makes of a score is a parameter. -/

namespace SupportGuard

open Foundation Fallible

namespace Publication

/-- What `float` does with a text or a number. -/
inductive FloatOutcome (Score : Type)
  | finite (score : Score)
  | notFinite
  | valueError
  | overflowError

inductive ReferenceRaise
  | overflowError
  | validationError
deriving DecidableEq

/-- `CandidateCitation`. -/
structure CandidateCitation where
  citationBindingId : String
  bounded : 1 ≤ citationBindingId.length ∧ citationBindingId.length ≤ 64

def candidateCitation (id : String) : Except ReferenceRaise CandidateCitation :=
  if bounded : 1 ≤ id.length ∧ id.length ≤ 64 then .ok ⟨id, bounded⟩ else .error .validationError

/-- The fields that both kinds of candidates have. -/
structure CandidateReferences where
  materialClaims : List MaterialClaim
  knowledgeCitations : List CandidateCitation
  knowledgeChunkIds : List String
  businessSourceIds : List String

section

variable {Score : Type} [LinearOrder Score] (str : Json → String)
  (float : Json → FloatOutcome Score)

/-! ## The evidence -/

/-- The binding an item of the evidence is for, when it names one. -/
def bindingOf (item : JsonMembers) : Option String :=
  if (item.value "citation_binding_id").truthy then some (str (item.value "citation_binding_id"))
  else none

/-- A text of an item that is not empty. -/
def presentText (item : JsonMembers) (key : String) : Option String :=
  if (item.value key).truthy then some (str (item.value key)) else none

/-- What a dictionary of the evidence by binding holds: the last item of the binding. -/
def evidenceByBinding (evidence : List JsonMembers) (id : String) : Option JsonMembers :=
  (evidence.filter fun item => bindingOf str item = some id).getLast?

/-- The same dictionary, of the items that have another text too. -/
def bindingText (evidence : List JsonMembers) (key id : String) : Option String :=
  ((evidence.filter fun item =>
    bindingOf str item = some id ∧ (presentText str item key).isSome).getLast?).bind fun item =>
      presentText str item key

def bindingChunk (evidence : List JsonMembers) : String → Option String :=
  bindingText str evidence "chunk_id"

def bindingLocator (evidence : List JsonMembers) : String → Option String :=
  bindingText str evidence "source_locator_hash"

abbrev SourceIdentity : Type :=
  String × String × String

/-- `source_identity` of a binding that the evidence has. -/
def itemIdentity (item : JsonMembers) (id : String) : SourceIdentity :=
  let locator : JsonMembers := match item.value "source_locator" with
    | .object members => members
    | _ => []
  let document := Json.orElse (item.value "document_id")
    (Json.orElse (locator.value "document_internal_id")
      (Json.orElse (item.value "chunk_id")
        (Json.orElse (item.value "source_locator_hash") (.string id))))
  let version := Json.orElse (item.value "version")
    (Json.orElse (locator.value "document_version") (.string ""))
  (str document, str version, str (Json.orElse (item.value "evidence_group") (.string "current")))

/-- The identity of a binding at a place of a claim; one that the evidence does not have is its
own source there. -/
def identityAt (evidence : List JsonMembers) (occurrence : String × Nat) : SourceIdentity :=
  match evidenceByBinding str evidence occurrence.1 with
  | some item => itemIdentity str item occurrence.1
  | none => (String.ofList ("unknown:".toList ++ Nat.toDigits 10 occurrence.2 ++
      ':' :: occurrence.1.toList), "", "")

/-- `float(raw_score)`, of the values that it is called with. -/
def scoreOutcome (item : JsonMembers) : FloatOutcome Score :=
  match item.value "retrieval_score" with
  | .null | .array _ | .object _ => .notFinite
  | raw => float raw

def itemScore (item : JsonMembers) : WithBot Score :=
  match scoreOutcome float item with
  | .finite score => score
  | _ => ⊥

/-- `retrieval_score`; minus infinity is the bottom. -/
def retrievalScore (evidence : List JsonMembers) (id : String) : WithBot Score :=
  (evidenceByBinding str evidence id).elim ⊥ (itemScore float)

/-- The conversion raises an exception that is not caught. -/
def itemOverflows (item : JsonMembers) : Bool :=
  match scoreOutcome float item with
  | .overflowError => true
  | _ => false

def scoreOverflows (evidence : List JsonMembers) (id : String) : Bool :=
  (evidenceByBinding str evidence id).any (itemOverflows float)

/-! ## The claims -/

/-- `max` of the members of a group. -/
def bestMember (evidence : List JsonMembers) (members : List (String × Nat)) :
    Except ReferenceRaise (Option (String × Nat)) := do
  refuseWhen (members.any fun member => scoreOverflows str float evidence member.1) .overflowError
  return members.argmax (Representatives.priority (retrievalScore str float evidence))

/-- The bindings of a claim that win their groups, wherever the claim has them. -/
def canonicalIds (evidence : List JsonMembers) (ids : List String) :
    Except ReferenceRaise (List String) := do
  let occurrences := ids.zipIdx
  let best ← (Grouping.distinct (occurrences.map (identityAt str evidence))).mapM fun identity =>
    bestMember str float evidence (Grouping.group (identityAt str evidence) occurrences identity)
  let winners := (best.filterMap id).map Prod.fst
  return ids.filter fun id => id ∈ winners

def canonicalClaim (evidence : List JsonMembers) (claim : MaterialClaim) :
    Except ReferenceRaise MaterialClaim := do
  let ids ← canonicalIds str float evidence claim.citationBindingIds
  return { claim with
    citationBindingIds := ids
    knowledgeLocatorHashes := Grouping.distinct (ids.filterMap (bindingLocator str evidence)) }

/-- The references that the claims give the candidate. -/
def derivedReferences (evidence : List JsonMembers) (claims : List MaterialClaim) :
    Except ReferenceRaise CandidateReferences := do
  let ids := Grouping.distinct (claims.flatMap MaterialClaim.citationBindingIds)
  let citations ← ids.mapM candidateCitation
  return {
    materialClaims := claims
    knowledgeCitations := citations
    knowledgeChunkIds := Grouping.distinct (ids.filterMap (bindingChunk str evidence))
    businessSourceIds := Grouping.distinct (claims.flatMap MaterialClaim.observationSourceIds) }

/-- `_canonicalize_publication_references`: the candidate as it is left, and how many bindings
its claims have lost. -/
def canonicalizePublicationReferences (candidate : CandidateReferences)
    (evidence : List JsonMembers) : Except ReferenceRaise (CandidateReferences × Nat) := do
  let claims ← candidate.materialClaims.mapM (canonicalClaim str float evidence)
  let removed := (List.zipWith (fun before after : MaterialClaim =>
    before.citationBindingIds.length - after.citationBindingIds.length)
      candidate.materialClaims claims).sum
  let references ← derivedReferences str evidence claims
  return (references, removed)

end

section

variable {Score : Type} [LinearOrder Score] {str : Json → String}
  {float : Json → FloatOutcome Score} {evidence : List JsonMembers}

/-! ## What the evidence has of a binding -/

/-- The item of the evidence is for this binding. -/
def Describes (str : Json → String) (evidence : List JsonMembers) (id : String)
    (item : JsonMembers) : Prop :=
  item ∈ evidence ∧ bindingOf str item = some id

/-- No two items are for one binding. -/
def UniqueBindings (str : Json → String) (evidence : List JsonMembers) : Prop :=
  (evidence.filterMap (bindingOf str)).Nodup

theorem filter_binding_of_unique (unique : UniqueBindings str evidence) {id : String}
    {item : JsonMembers} (describes : Describes str evidence id item)
    (also : JsonMembers → Bool) (holds : also item = true) :
    (evidence.filter fun other => bindingOf str other = some id ∧ also other = true) = [item] := by
  rcases describes with ⟨member, named⟩
  unfold UniqueBindings at unique
  induction evidence with
  | nil => cases member
  | cons first rest induction =>
      have later (apart : bindingOf str first ≠ some id) (inRest : item ∈ rest)
          (restUnique : (rest.filterMap (bindingOf str)).Nodup) :
          ((first :: rest).filter fun other =>
            bindingOf str other = some id ∧ also other = true) = [item] := by
        rw [List.filter_cons_of_neg (by simp [apart])]
        exact induction restUnique inRest
      cases firstNamed : bindingOf str first with
      | none =>
          rw [List.filterMap_cons_none firstNamed] at unique
          rcases List.mem_cons.mp member with same | inRest
          · rw [← same, named] at firstNamed
            cases firstNamed
          · exact later (by rw [firstNamed]; exact nofun) inRest unique
      | some other =>
          rw [List.filterMap_cons_some firstNamed, List.nodup_cons] at unique
          rcases List.mem_cons.mp member with same | inRest
          · subst same
            have own : other = id := Option.some.inj (firstNamed.symm.trans named)
            subst own
            have none : (rest.filter fun entry =>
                bindingOf str entry = some other ∧ also entry = true) = [] := by
              rw [List.filter_eq_nil_iff]
              intro entry entryMember matching
              rw [decide_eq_true_eq] at matching
              exact unique.1 (List.mem_filterMap.mpr ⟨entry, entryMember, matching.1⟩)
            rw [List.filter_cons_of_pos (by simp [named, holds]), none]
          · apply later _ inRest unique.2
            intro same
            rw [firstNamed] at same
            rw [Option.some.inj same] at unique
            exact unique.1 (List.mem_filterMap.mpr ⟨item, inRest, named⟩)

theorem evidenceByBinding_eq_some_iff (unique : UniqueBindings str evidence) {id : String}
    {item : JsonMembers} :
    evidenceByBinding str evidence id = some item ↔ Describes str evidence id item := by
  constructor
  · intro found
    have member := List.mem_of_getLast? found
    rw [List.mem_filter, decide_eq_true_eq] at member
    exact member
  · intro describes
    have only := filter_binding_of_unique unique describes (fun _ => true) rfl
    simp only [and_true] at only
    rw [evidenceByBinding, only]
    rfl

theorem bindingText_eq_some_iff (unique : UniqueBindings str evidence) {key id text : String} :
    bindingText str evidence key id = some text ↔
      ∃ item, Describes str evidence id item ∧ presentText str item key = some text := by
  unfold bindingText
  rw [Option.bind_eq_some_iff]
  constructor
  · intro found
    rcases found with ⟨item, last, present⟩
    have member := List.mem_of_getLast? last
    rw [List.mem_filter, decide_eq_true_eq] at member
    exact ⟨item, ⟨member.1, member.2.1⟩, present⟩
  · intro found
    rcases found with ⟨item, describes, present⟩
    have only := filter_binding_of_unique unique describes
      (fun other => (presentText str other key).isSome) (by rw [present]; rfl)
    refine ⟨item, ?_, present⟩
    rw [only]
    rfl

theorem evidenceByBinding_eq_none_iff {id : String} :
    evidenceByBinding str evidence id = none ↔ ∀ item, ¬Describes str evidence id item := by
  rw [evidenceByBinding, List.getLast?_eq_none_iff, List.filter_eq_nil_iff]
  constructor
  · intro none item describes
    exact none item describes.1 (decide_eq_true describes.2)
  · intro none item member matching
    exact none item ⟨member, of_decide_eq_true matching⟩

/-! ## The groups of a claim -/

/-- What the bindings of one group have in common. -/
def sharedIdentity (str : Json → String) (evidence : List JsonMembers) (id : String) :
    Option SourceIdentity :=
  (evidenceByBinding str evidence id).map fun item => itemIdentity str item id

theorem unknownText_injective {first second : String} {place otherPlace : Nat}
    (same : String.ofList ("unknown:".toList ++ Nat.toDigits 10 place ++ ':' :: first.toList) =
      String.ofList ("unknown:".toList ++ Nat.toDigits 10 otherPlace ++ ':' :: second.toList)) :
    first = second ∧ place = otherPlace := by
  have texts := String.ofList_injective same
  rw [List.append_assoc, List.append_assoc] at texts
  have behind := List.append_cancel_left texts
  have digits (value : Nat) (text : List Char) :
      (Nat.toDigits 10 value ++ ':' :: text).takeWhile Char.isDigit = Nat.toDigits 10 value := by
    rw [List.takeWhile_append_of_pos fun character member =>
      Nat.isDigit_of_mem_toDigits (by decide) (by decide) member]
    rw [List.takeWhile_cons_of_neg (by decide), List.append_nil]
  have numbers := congrArg (List.takeWhile Char.isDigit) behind
  rw [digits, digits] at numbers
  have places : place = otherPlace := by
    have read := JsonText.readDigits_toDigits place
    rw [numbers, JsonText.readDigits_toDigits] at read
    exact (Option.some.inj read).symm
  rw [numbers] at behind
  have rest := (List.cons.inj (List.append_cancel_left behind)).2
  exact ⟨String.toList_injective rest, places⟩

theorem orElse_truthy {left right : Json} (truthy : right.truthy = true) :
    (Json.orElse left right).truthy = true := by
  unfold Json.orElse
  split
  · assumption
  · exact truthy

theorem itemIdentity_group (strTruthy : ∀ value : Json, value.truthy = true → str value ≠ "")
    (item : JsonMembers) (id : String) : (itemIdentity str item id).2.2 ≠ "" :=
  strTruthy _ (orElse_truthy rfl)

/-- Two places of a claim are one source when they have one binding that is unknown at one
place, or bindings of one document version and evidence group. -/
theorem identityAt_separates (strTruthy : ∀ value : Json, value.truthy = true → str value ≠ "") :
    Representatives.Separates (identityAt str evidence) (sharedIdentity str evidence) := by
  intro first second
  unfold identityAt sharedIdentity
  cases firstItem : evidenceByBinding str evidence first.1 with
  | some item =>
      cases secondItem : evidenceByBinding str evidence second.1 with
      | some other =>
          dsimp only
          constructor
          · intro same
            exact .inr ⟨_, rfl, congrArg some same.symm⟩
          · intro either
            rcases either with same | ⟨common, here, there⟩
            · rw [same, secondItem] at firstItem
              rw [Option.some.inj firstItem, same]
            · exact (Option.some.inj here).trans (Option.some.inj there).symm
      | none =>
          dsimp only
          constructor
          · intro same
            have groups := congrArg (fun identity : SourceIdentity => identity.2.2) same
            exact absurd groups (itemIdentity_group strTruthy item first.1)
          · intro either
            rcases either with same | ⟨common, _, there⟩
            · rw [same, secondItem] at firstItem
              cases firstItem
            · cases there
  | none =>
      cases secondItem : evidenceByBinding str evidence second.1 with
      | some other =>
          dsimp only
          constructor
          · intro same
            have groups := congrArg (fun identity : SourceIdentity => identity.2.2) same
            exact absurd groups.symm (itemIdentity_group strTruthy other second.1)
          · intro either
            rcases either with same | ⟨common, here, _⟩
            · rw [same, secondItem] at firstItem
              cases firstItem
            · cases here
      | none =>
          dsimp only
          constructor
          · intro same
            have texts := unknownText_injective (congrArg Prod.fst same)
            exact .inl (Prod.ext texts.1 texts.2)
          · intro either
            rcases either with same | ⟨common, here, _⟩
            · rw [same]
            · cases here

/-! ## What a run leaves -/

/-- A loop whose turns may all raise one exception, and otherwise compute. -/
theorem mapM_guarded {α β : Type} {guard : α → Bool} {value : α → β}
    {error : ReferenceRaise} (inputs : List α) :
    (inputs.mapM fun input => do
        refuseWhen (guard input = true) error
        return value input) =
      if inputs.any guard then .error error else .ok (inputs.map value) := by
  induction inputs with
  | nil => rfl
  | cons input rest induction =>
      rw [List.mapM_cons, induction, refuseWhen_bind]
      cases raises : guard input with
      | true => simp [raises, bind, Except.bind]
      | false => cases later : rest.any guard <;> simp [raises, later, bind, Except.bind, pure,
          Except.pure]

theorem canonicalIds_eq (str : Json → String) (float : Json → FloatOutcome Score)
    (evidence : List JsonMembers) (ids : List String) :
    canonicalIds str float evidence ids =
      if ids.any (scoreOverflows str float evidence) then .error .overflowError
      else .ok (Representatives.kept (identityAt str evidence)
        (retrievalScore str float evidence) ids) := by
  have groups : ((Grouping.distinct (ids.zipIdx.map (identityAt str evidence))).any fun identity =>
      (Grouping.group (identityAt str evidence) ids.zipIdx identity).any fun member =>
        scoreOverflows str float evidence member.1) =
      ids.any (scoreOverflows str float evidence) := by
    rw [Bool.eq_iff_iff]
    simp only [List.any_eq_true]
    constructor
    · intro found
      rcases found with ⟨identity, _, member, inGroup, overflows⟩
      exact ⟨member.1, (Representatives.mem_of_place (Grouping.mem_group.mp inGroup).1).1,
        overflows⟩
    · intro found
      rcases found with ⟨id, member, overflows⟩
      have place := Representatives.exists_place member
      exact ⟨_, Grouping.mem_distinct.mpr (List.mem_map_of_mem place), _,
        Grouping.mem_group.mpr ⟨place, rfl⟩, overflows⟩
  unfold canonicalIds
  dsimp only
  have turns := @mapM_guarded SourceIdentity (Option (String × Nat))
    (fun identity => (Grouping.group (identityAt str evidence) ids.zipIdx identity).any
      fun member => scoreOverflows str float evidence member.1)
    (fun identity => (Grouping.group (identityAt str evidence) ids.zipIdx identity).argmax
      (Representatives.priority (retrievalScore str float evidence))) .overflowError
    (Grouping.distinct (ids.zipIdx.map (identityAt str evidence)))
  rw [groups] at turns
  unfold bestMember
  rw [turns]
  cases ids.any (scoreOverflows str float evidence) with
  | true => rfl
  | false =>
      change Except.ok _ = Except.ok _
      rw [List.filterMap_map]
      rfl

/-- The claim as it is left when no score raises. -/
def keptClaim (str : Json → String) (float : Json → FloatOutcome Score)
    (evidence : List JsonMembers) (claim : MaterialClaim) : MaterialClaim :=
  let ids := Representatives.kept (identityAt str evidence) (retrievalScore str float evidence)
    claim.citationBindingIds
  { claim with
    citationBindingIds := ids
    knowledgeLocatorHashes := Grouping.distinct (ids.filterMap (bindingLocator str evidence)) }

/-- No score that a claim needs raises. -/
def ScoresRead (str : Json → String) (float : Json → FloatOutcome Score)
    (evidence : List JsonMembers) (claim : MaterialClaim) : Prop :=
  ∀ id ∈ claim.citationBindingIds, scoreOverflows str float evidence id = false

theorem canonicalClaim_eq_ok_iff {claim after : MaterialClaim} :
    canonicalClaim str float evidence claim = .ok after ↔
      ScoresRead str float evidence claim ∧ after = keptClaim str float evidence claim := by
  unfold canonicalClaim
  rw [canonicalIds_eq]
  have read : ScoresRead str float evidence claim ↔
      claim.citationBindingIds.any (scoreOverflows str float evidence) = false := by
    rw [List.any_eq_false]
    simp [ScoresRead]
  rw [read]
  cases claim.citationBindingIds.any (scoreOverflows str float evidence) with
  | true => simp [bind, Except.bind]
  | false =>
      change Except.ok _ = Except.ok _ ↔ _
      rw [Except.ok.injEq, eq_comm]
      simp [keptClaim]

theorem canonicalClaims_eq_ok_iff {claims after : List MaterialClaim} :
    claims.mapM (canonicalClaim str float evidence) = .ok after ↔
      (∀ claim ∈ claims, ScoresRead str float evidence claim) ∧
        after = claims.map (keptClaim str float evidence) := by
  rw [mapM_eq_ok_iff]
  constructor
  · intro each
    induction each with
    | nil => exact ⟨nofun, rfl⟩
    | cons first _ induction =>
        rcases canonicalClaim_eq_ok_iff.mp first with ⟨read, rfl⟩
        rcases induction with ⟨later, rfl⟩
        exact ⟨List.forall_mem_cons.mpr ⟨read, later⟩, rfl⟩
  · intro both
    rcases both with ⟨read, rfl⟩
    rw [List.forall₂_map_right_iff, List.forall₂_same]
    intro claim member
    exact canonicalClaim_eq_ok_iff.mpr ⟨read claim member, rfl⟩

theorem keptClaim_keptClaim
    (strTruthy : ∀ value : Json, value.truthy = true → str value ≠ "") (claim : MaterialClaim) :
    keptClaim str float evidence (keptClaim str float evidence claim) =
      keptClaim str float evidence claim := by
  unfold keptClaim
  dsimp only
  rw [Representatives.kept_kept (identityAt_separates strTruthy)]

theorem ScoresRead.kept {claim : MaterialClaim} (read : ScoresRead str float evidence claim) :
    ScoresRead str float evidence (keptClaim str float evidence claim) :=
  fun id member => read id (Representatives.mem_kept.mp member).1

/-! ## What the claims give the candidate -/

def boundedId (id : String) : Prop :=
  1 ≤ id.length ∧ id.length ≤ 64

theorem candidateCitation_eq_ok_iff {id : String} {citation : CandidateCitation} :
    candidateCitation id = .ok citation ↔ citation.citationBindingId = id := by
  unfold candidateCitation
  split
  · rename_i bounded
    rw [Except.ok.injEq]
    constructor
    · intro same
      rw [← same]
    · intro same
      subst same
      rfl
  · rename_i beyond
    constructor
    · intro impossible
      cases impossible
    · intro same
      subst same
      exact absurd citation.bounded beyond

theorem candidateCitations_returns_iff {ids : List String} :
    (∃ citations, ids.mapM candidateCitation = .ok citations) ↔ ∀ id ∈ ids, boundedId id := by
  rw [mapM_returns_iff]
  constructor
  · intro each id member
    rcases each id member with ⟨citation, made⟩
    have same := candidateCitation_eq_ok_iff.mp made
    exact same ▸ citation.bounded
  · intro each id member
    exact ⟨⟨id, each id member⟩, candidateCitation_eq_ok_iff.mpr rfl⟩

theorem candidateCitations_ids {ids : List String} {citations : List CandidateCitation}
    (made : ids.mapM candidateCitation = .ok citations) :
    citations.map CandidateCitation.citationBindingId = ids := by
  have each := mapM_forall₂ made
  clear made
  induction each with
  | nil => rfl
  | cons first _ induction =>
      rw [List.map_cons, candidateCitation_eq_ok_iff.mp first, induction]

theorem derivedReferences_returns_iff {claims : List MaterialClaim} :
    (∃ references, derivedReferences str evidence claims = .ok references) ↔
      ∀ claim ∈ claims, ∀ id ∈ claim.citationBindingIds, boundedId id := by
  have ids : (∀ id ∈ Grouping.distinct (claims.flatMap MaterialClaim.citationBindingIds),
      boundedId id) ↔ ∀ claim ∈ claims, ∀ id ∈ claim.citationBindingIds, boundedId id := by
    simp only [Grouping.mem_distinct, List.mem_flatMap]
    constructor
    · intro each claim member id inClaim
      exact each id ⟨claim, member, inClaim⟩
    · intro each id found
      rcases found with ⟨claim, member, inClaim⟩
      exact each claim member id inClaim
  rw [← ids, ← candidateCitations_returns_iff]
  constructor
  · intro found
    rcases found with ⟨references, derived⟩
    rcases bind_eq_ok_iff.mp derived with ⟨citations, made, _⟩
    exact ⟨citations, made⟩
  · intro found
    rcases found with ⟨citations, made⟩
    exact bind_returns made ⟨_, rfl⟩

/-! ## The normal form -/

/-- What a claim keeps of what it cites. -/
structure SupportKept (str : Json → String) (float : Json → FloatOutcome Score)
    (evidence : List JsonMembers) (before after : MaterialClaim) : Prop where
  text : after.text = before.text
  observations : after.observationSourceIds = before.observationSourceIds
  cited : after.citationBindingIds.Sublist before.citationBindingIds
  unknown : ∀ id, (∀ item, ¬Describes str evidence id item) →
    after.citationBindingIds.count id = before.citationBindingIds.count id
  represented : ∀ id ∈ before.citationBindingIds, ∀ item, Describes str evidence id item →
    ∃ winner ∈ after.citationBindingIds, ∃ source, Describes str evidence winner source ∧
      itemIdentity str source winner = itemIdentity str item id ∧
      itemScore float item ≤ itemScore float source
  alone : ∀ id ∈ after.citationBindingIds, ∀ item, Describes str evidence id item →
    ∀ rival ∈ after.citationBindingIds, ∀ source, Describes str evidence rival source →
      itemIdentity str source rival = itemIdentity str item id → rival = id
  locators : after.knowledgeLocatorHashes.Nodup ∧ ∀ hash, hash ∈ after.knowledgeLocatorHashes ↔
    ∃ id ∈ after.citationBindingIds, ∃ item, Describes str evidence id item ∧
      presentText str item "source_locator_hash" = some hash

/-- The references of a candidate say once what its claims say. -/
structure Canonical (str : Json → String) (float : Json → FloatOutcome Score)
    (evidence : List JsonMembers) (before after : CandidateReferences) : Prop where
  claims : List.Forall₂ (SupportKept str float evidence) before.materialClaims
    after.materialClaims
  citations : (after.knowledgeCitations.map CandidateCitation.citationBindingId).Nodup ∧
    ∀ id, id ∈ after.knowledgeCitations.map CandidateCitation.citationBindingId ↔
      ∃ claim ∈ after.materialClaims, id ∈ claim.citationBindingIds
  chunks : after.knowledgeChunkIds.Nodup ∧ ∀ chunk, chunk ∈ after.knowledgeChunkIds ↔
    ∃ claim ∈ after.materialClaims, ∃ id ∈ claim.citationBindingIds, ∃ item,
      Describes str evidence id item ∧ presentText str item "chunk_id" = some chunk
  sources : after.businessSourceIds.Nodup ∧ ∀ source, source ∈ after.businessSourceIds ↔
    ∃ claim ∈ after.materialClaims, source ∈ claim.observationSourceIds

/-- Another cited binding of one source scores higher, or as high and is cited earlier. -/
def Redundant (str : Json → String) (float : Json → FloatOutcome Score)
    (evidence : List JsonMembers) (ids : List String) (id : String) : Prop :=
  ∃ item, Describes str evidence id item ∧ ∃ rival ∈ ids, ∃ source,
    Describes str evidence rival source ∧
    itemIdentity str source rival = itemIdentity str item id ∧
    (itemScore float item < itemScore float source ∨
      itemScore float item = itemScore float source ∧ ids.idxOf rival < ids.idxOf id)

/-- No score of a cited binding is beyond the range of a double, and the ids that stay are of the
length of a citation's. -/
structure Publishable (str : Json → String) (float : Json → FloatOutcome Score)
    (evidence : List JsonMembers) (candidate : CandidateReferences) : Prop where
  scores : ∀ claim ∈ candidate.materialClaims, ∀ id ∈ claim.citationBindingIds, ∀ item,
    Describes str evidence id item → itemOverflows float item = false
  ids : ∀ claim ∈ candidate.materialClaims, ∀ id ∈ claim.citationBindingIds,
    boundedId id ∨ Redundant str float evidence claim.citationBindingIds id

section

variable (unique : UniqueBindings str evidence)
  (strTruthy : ∀ value : Json, value.truthy = true → str value ≠ "")

include unique

theorem sharedIdentity_eq_some_iff {id : String} {identity : SourceIdentity} :
    sharedIdentity str evidence id = some identity ↔
      ∃ item, Describes str evidence id item ∧ itemIdentity str item id = identity := by
  simp only [sharedIdentity, Option.map_eq_some_iff, evidenceByBinding_eq_some_iff unique]

omit [LinearOrder Score] in
theorem retrievalScore_eq {id : String} {item : JsonMembers}
    (describes : Describes str evidence id item) :
    retrievalScore str float evidence id = itemScore float item := by
  rw [retrievalScore, (evidenceByBinding_eq_some_iff unique).mpr describes]
  rfl

theorem outranked_iff_redundant {ids : List String} {id : String} :
    Representatives.Outranked (sharedIdentity str evidence) (retrievalScore str float evidence)
      ids id ↔ Redundant str float evidence ids id := by
  constructor
  · intro outranked
    rcases outranked with ⟨rival, member, ⟨common, own, others⟩, above⟩
    rcases (sharedIdentity_eq_some_iff unique).mp own with ⟨item, describes, same⟩
    rcases (sharedIdentity_eq_some_iff unique).mp others with ⟨source, rivalDescribes, rivalSame⟩
    rw [retrievalScore_eq unique describes, retrievalScore_eq unique rivalDescribes] at above
    exact ⟨item, describes, rival, member, source, rivalDescribes, rivalSame.trans same.symm,
      above⟩
  · intro redundant
    rcases redundant with ⟨item, describes, rival, member, source, rivalDescribes, same, above⟩
    refine ⟨rival, member, ⟨itemIdentity str item id, ?_, ?_⟩, ?_⟩
    · exact (sharedIdentity_eq_some_iff unique).mpr ⟨item, describes, rfl⟩
    · exact (sharedIdentity_eq_some_iff unique).mpr ⟨source, rivalDescribes, same⟩
    · rw [retrievalScore_eq unique describes, retrievalScore_eq unique rivalDescribes]
      exact above

omit [LinearOrder Score] in
theorem scoresRead_iff {claim : MaterialClaim} : ScoresRead str float evidence claim ↔
    ∀ id ∈ claim.citationBindingIds, ∀ item, Describes str evidence id item →
      itemOverflows float item = false := by
  have each (id : String) : scoreOverflows str float evidence id = false ↔
      ∀ item, Describes str evidence id item → itemOverflows float item = false := by
    simp only [← evidenceByBinding_eq_some_iff unique]
    unfold scoreOverflows
    cases evidenceByBinding str evidence id <;> simp
  unfold ScoresRead
  simp only [each]

include strTruthy

theorem mem_kept_iff {claim : MaterialClaim} {id : String} :
    id ∈ (keptClaim str float evidence claim).citationBindingIds ↔
      id ∈ claim.citationBindingIds ∧
        ¬Redundant str float evidence claim.citationBindingIds id := by
  unfold keptClaim
  dsimp only
  rw [Representatives.mem_kept, ← outranked_iff_redundant unique]
  apply and_congr_right
  intro member
  exact Representatives.mem_winnersOf_iff (identityAt_separates strTruthy) member

theorem keptClaim_supportKept (claim : MaterialClaim) :
    SupportKept str float evidence claim (keptClaim str float evidence claim) := by
  have separates := @identityAt_separates str evidence strTruthy
  constructor
  · rfl
  · rfl
  · exact List.filter_sublist
  · intro id unknown
    by_cases cited : id ∈ claim.citationBindingIds
    · apply List.count_filter
      rw [decide_eq_true_eq]
      apply Representatives.mem_winnersOf_of_unshared separates cited
      rw [sharedIdentity, evidenceByBinding_eq_none_iff.mpr unknown]
      rfl
    · rw [List.count_eq_zero_of_not_mem cited, List.count_eq_zero_of_not_mem]
      intro kept
      exact cited (Representatives.mem_kept.mp kept).1
  · intro id cited item describes
    have sharing := (sharedIdentity_eq_some_iff unique).mpr ⟨item, describes, rfl⟩
    rcases Representatives.exists_winner (retrievalScore str float evidence) separates
      cited sharing with ⟨winner, winnerMember, wins, winnerShared, most⟩
    rcases (sharedIdentity_eq_some_iff unique).mp winnerShared with ⟨source, isSource, same⟩
    refine ⟨winner, Representatives.mem_kept.mpr ⟨winnerMember, wins⟩, source, isSource, same, ?_⟩
    rw [← retrievalScore_eq unique describes, ← retrievalScore_eq unique isSource]
    rcases most id cited sharing with lower | ⟨level, _⟩
    · exact lower.le
    · exact level.le
  · intro id kept item describes rival rivalKept source isSource same
    exact Representatives.winner_unique separates (Representatives.mem_kept.mp rivalKept).2
      (Representatives.mem_kept.mp kept).2
      ((sharedIdentity_eq_some_iff unique).mpr ⟨source, isSource, same⟩)
      ((sharedIdentity_eq_some_iff unique).mpr ⟨item, describes, rfl⟩)
  · refine ⟨Grouping.nodup_distinct _, ?_⟩
    intro hash
    unfold keptClaim
    dsimp only
    rw [Grouping.mem_distinct, List.mem_filterMap]
    simp only [bindingLocator, bindingText_eq_some_iff unique]

/-- The references that a run returns are canonical. -/
theorem canonical_of_derived {candidate after : CandidateReferences}
    (derived : derivedReferences str evidence
      (candidate.materialClaims.map (keptClaim str float evidence)) = .ok after) :
    Canonical str float evidence candidate after := by
  rcases bind_eq_ok_iff.mp derived with ⟨citations, made, built⟩
  cases built
  constructor
  · dsimp only
    rw [List.forall₂_map_right_iff, List.forall₂_same]
    intro claim _
    exact keptClaim_supportKept unique strTruthy claim
  · dsimp only
    rw [candidateCitations_ids made]
    refine ⟨Grouping.nodup_distinct _, ?_⟩
    intro id
    rw [Grouping.mem_distinct, List.mem_flatMap]
  · refine ⟨Grouping.nodup_distinct _, ?_⟩
    intro chunk
    simp only [Grouping.mem_distinct, List.mem_filterMap, List.mem_flatMap, bindingChunk,
      bindingText_eq_some_iff unique]
    constructor
    · intro found
      rcases found with ⟨id, ⟨claim, member, cited⟩, described⟩
      exact ⟨claim, member, id, cited, described⟩
    · intro found
      rcases found with ⟨claim, member, id, cited, described⟩
      exact ⟨id, ⟨claim, member, cited⟩, described⟩
  · refine ⟨Grouping.nodup_distinct _, ?_⟩
    intro source
    rw [Grouping.mem_distinct, List.mem_flatMap]

omit unique in
/-- What a run returns, a further run returns again. -/
theorem canonicalize_again {candidate after : CandidateReferences}
    (read : ∀ claim ∈ candidate.materialClaims, ScoresRead str float evidence claim)
    (derived : derivedReferences str evidence
      (candidate.materialClaims.map (keptClaim str float evidence)) = .ok after) :
    canonicalizePublicationReferences str float after evidence = .ok (after, 0) := by
  have claims : after.materialClaims =
      candidate.materialClaims.map (keptClaim str float evidence) := by
    rcases bind_eq_ok_iff.mp derived with ⟨citations, made, built⟩
    cases built
    rfl
  have turns : after.materialClaims.mapM (canonicalClaim str float evidence) =
      .ok after.materialClaims := by
    rw [canonicalClaims_eq_ok_iff, claims]
    constructor
    · intro claim member
      rcases List.mem_map.mp member with ⟨source, sourceMember, rfl⟩
      exact (read source sourceMember).kept
    · rw [List.map_map]
      apply List.map_congr_left
      intro claim _
      exact (keptClaim_keptClaim strTruthy claim).symm
  have nothing : (List.zipWith (fun before after : MaterialClaim =>
      before.citationBindingIds.length - after.citationBindingIds.length)
        after.materialClaims after.materialClaims).sum = 0 := by
    rw [List.zipWith_self]
    simp
  unfold canonicalizePublicationReferences
  rw [turns]
  change (derivedReferences str evidence after.materialClaims >>= _) = _
  rw [claims, derived]
  change Except.ok _ = _
  rw [← claims, nothing]

end

end

/-! Two bindings of one document version, and one that the evidence does not have. -/

/-- `str`, of the texts that the examples have. -/
def exampleStr : Json → String
  | .string text => text
  | _ => "value"

def exampleFloat : Json → FloatOutcome Int
  | .integer value => .finite value
  | _ => .valueError

def exampleSource (id : String) (score : Int) : JsonMembers :=
  [("citation_binding_id", .string id), ("document_id", .string "limits"),
    ("version", .string "5"), ("chunk_id", .string id), ("source_locator_hash", .string id),
    ("retrieval_score", .integer score)]

def exampleReferences (ids : List String) : CandidateReferences where
  materialClaims := [{ text := "The limit is 60.", citationBindingIds := ids }]
  knowledgeCitations := []
  knowledgeChunkIds := []
  businessSourceIds := []

theorem exampleStr_truthy (value : Json) (truthy : value.truthy = true) :
    exampleStr value ≠ "" := by
  cases value with
  | string text => simpa [Json.truthy, exampleStr] using truthy
  | _ => simp [exampleStr]

end Publication

end SupportGuard
