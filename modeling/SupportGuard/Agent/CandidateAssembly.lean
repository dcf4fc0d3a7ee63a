import SupportGuard.Agent.Obligations

/-! # Assembling a proposal

`assemble_action_candidate` of `agent/proposal_assembler.py` makes a candidate of an
admission, a ledger whose obligations are all satisfied and a synthesis. The same candidate
is checked again by `evaluate_action_candidate_eligibility` before it becomes a proposal,
against the same ledger and observations. -/

namespace SupportGuard

open Foundation Fallible

/-! ## The assembler -/

/-- An explanation whose claims are bound to evidence. -/
structure BoundEvidenceSynthesis where
  answer : String
  knowledgeChunkIds : List String
  materialClaims : List MaterialClaim

inductive CandidateStop
  | assemblyError (code : String)
  | validationError
deriving DecidableEq

def proposalAction : ActionType → CandidateAction
  | .refund => .refundProposal
  | .apiKeyRevocation => .apiKeyRevocationProposal
  | .entitlementChange => .entitlementChangeProposal

def orStop {α : Type} (value : Option α) (stop : CandidateStop) : Except CandidateStop α :=
  match value with
  | some present => .ok present
  | none => .error stop

theorem orStop_eq_ok_iff {α : Type} {value : Option α} {stop : CandidateStop} {result : α} :
    orStop value stop = .ok result ↔ value = some result := by
  cases value <;> simp [orStop]

/-- The observations of the run under the identifier of a binding. -/
def observationsNamed (ledger : ActionObligationLedger) (binding : ObligationBinding)
    (observations : List JsonMembers) : List JsonMembers :=
  observations.filter fun item =>
    (item.value "run_id").pyEq (.string ledger.runId) &&
      ((item.value "observation_id").pyEq (.string binding.observationId) ||
        !(item.value "observation_id").truthy &&
          (item.value "tool_call_id").pyEq (.string binding.observationId))

/-- `_observation_by_binding`. -/
def observationByBinding (ledger : ActionObligationLedger) (observations : List JsonMembers)
    (obligationId : String) : Except CandidateStop JsonMembers := do
  let entry ← orStop ((ledger.entry? obligationId).filter fun entry => entry.status = .satisfied)
    (.assemblyError "proposal_obligation_not_satisfied")
  let binding ← orStop entry.binding (.assemblyError "proposal_obligation_not_satisfied")
  match observationsNamed ledger binding observations with
  | [observation] => match observation.value "data" with
      | .object data => .ok data
      | _ => .error (.assemblyError "proposal_observation_data_missing")
  | _ => .error (.assemblyError "proposal_observation_binding_ambiguous")

/-- `_proposal_value`. -/
def proposalValue (admission : ActionAdmission) (ledger : ActionObligationLedger)
    (observations : List JsonMembers) (field : ProposalFieldBinding) :
    Except CandidateStop Json := do
  let value ← match field.source with
    | .requestReason => .ok (Json.optionalText admission.requestReason)
    | .admission => .ok (admission.extractedArguments.value field.sourcePath)
    | .observation obligationId => do
        let data ← observationByBinding ledger observations obligationId
        .ok (data.value field.sourcePath)
  refuseWhen (value = .null ∨ value = .string "")
    (.assemblyError ("proposal_field_missing:" ++ field.targetField))
  .ok value

def proposedArguments (admission : ActionAdmission) (ledger : ActionObligationLedger)
    (observations : List JsonMembers) (fields : List ProposalFieldBinding) :
    Except CandidateStop JsonMembers :=
  fields.mapM fun field => do
    let value ← proposalValue admission ledger observations field
    .ok (field.targetField, value)

/-- A dump has the declared members in their order, with values that are valid. -/
theorem validateMembers_forall₂ {declared : List (String × (Json → Bool))}
    {members validated : JsonMembers} (valid : validateMembers declared members = some validated) :
    List.Forall₂ (fun field member => member.1 = field.1 ∧
      members.lookup field.1 = some member.2 ∧ field.2 member.2 = true) declared validated := by
  unfold validateMembers at valid
  split at valid
  · apply (mapM_option_forall₂ valid).imp
    intro field member found
    simp only [Option.map_eq_some_iff, Option.filter_eq_some_iff] at found
    rcases found with ⟨value, ⟨looked, kept⟩, rfl⟩
    exact ⟨rfl, looked, kept⟩
  · cases valid

theorem validateMembers_names {declared : List (String × (Json → Bool))}
    {members validated : JsonMembers} (valid : validateMembers declared members = some validated) :
    validated.map Prod.fst = declared.map Prod.fst := by
  have each := (validateMembers_forall₂ valid).imp fun _ _ found => found.1.symm
  rw [← List.forall₂_eq_eq_eq, List.forall₂_map_left_iff, List.forall₂_map_right_iff]
  exact each.flip.imp fun _ _ equal => equal.symm

/-- A dump has each argument once. -/
theorem validateArguments_nodup {actionType : ActionType} {arguments validated : JsonMembers}
    (valid : validateArguments actionType arguments = some validated) :
    (validated.map Prod.fst).Nodup := by
  cases actionType with
  | refund =>
      rw [validateMembers_names valid]
      decide
  | apiKeyRevocation =>
      rw [validateMembers_names valid]
      decide
  | entitlementChange =>
      simp only [validateArguments, validateEntitlementArguments, Option.bind_eq_bind,
        Option.bind_eq_some_iff] at valid
      rcases valid with ⟨members, named, valid⟩
      split at valid
      · rcases Option.bind_eq_some_iff.mp valid with ⟨target, _, equal⟩
        cases equal
        rw [List.map_map]
        have names : members.map (Prod.fst ∘ fun member : String × Json =>
            if member.1 = "target" then (member.1, Json.object target) else member) =
            members.map Prod.fst := by
          apply List.map_congr_left
          intro member _
          simp only [Function.comp_apply]
          split <;> rfl
        rw [names, validateMembers_names named]
        decide
      · cases valid

/-- `CandidateResponse.model_validate`: the arguments are those of the schema's dump. -/
def validateCandidate (actionType : ActionType) (synthesis : BoundEvidenceSynthesis)
    (citations sources : List String) (arguments : JsonMembers) :
    Except CandidateStop CandidateResponse :=
  match valid : validateArguments actionType arguments with
  | none => .error .validationError
  | some validated =>
      if citations.all fun citation => 1 ≤ citation.length && citation.length ≤ 64 then
        .ok
          { answer := synthesis.answer
            action := proposalAction actionType
            knowledgeChunkIds := synthesis.knowledgeChunkIds
            knowledgeCitations := citations
            businessSourceIds := sources
            materialClaims := synthesis.materialClaims
            proposedArguments := validated
            uniqueArguments := validateArguments_nodup valid }
      else .error .validationError

/-- `assemble_action_candidate`. -/
def assembleActionCandidate (spec : ActionSpec) (admission : ActionAdmission)
    (ledger : ActionObligationLedger) (observations : List JsonMembers)
    (synthesis : BoundEvidenceSynthesis) : Except CandidateStop CandidateResponse := do
  refuseWhen (admission.status ≠ .admitted ∨ admission.actionType ≠ some spec.actionType ∨
      ledger.actionType ≠ spec.actionType ∨ ledger.allObligationsSatisfied = false)
    (.assemblyError "proposal_preconditions_not_satisfied")
  let knowledgeBindings :=
    (ledger.bindingsOf (· = .knowledge)).flatMap ObligationBinding.citationBindingIds
  let businessSources := (ledger.bindingsOf (· ≠ .knowledge)).flatMap ObligationBinding.sourceIds
  refuseWhen (knowledgeBindings = [] ∨ businessSources = [] ∨ synthesis.materialClaims = [])
    (.assemblyError "proposal_claim_binding_incomplete")
  let usedCitations := synthesis.materialClaims.flatMap MaterialClaim.citationBindingIds
  let usedSources := synthesis.materialClaims.flatMap MaterialClaim.observationSourceIds
  refuseWhen (usedCitations = [] ∨ ¬usedCitations ⊆ knowledgeBindings)
    (.assemblyError "proposal_citation_binding_invalid")
  refuseWhen (usedSources = [] ∨ ¬usedSources ⊆ businessSources)
    (.assemblyError "proposal_business_binding_invalid")
  let arguments ← proposedArguments admission ledger observations spec.proposalFields
  validateCandidate spec.actionType synthesis (usedCitations.dedup.insertionSort (· ≤ ·))
    (usedSources.dedup.insertionSort (· ≤ ·)) arguments

end SupportGuard
