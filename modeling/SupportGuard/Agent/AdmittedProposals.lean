import SupportGuard.Contracts.AdmissionTotality
import SupportGuard.Contracts.WrittenTargets
import SupportGuard.Foundation.Newest
import SupportGuard.Services.ApprovalEdits

/-! # Proposals of admitted requests

The arguments of a proposal are the target and the reason that an admission has read off the
messages of the customer, completed with the resource that was observed. The schema of the
action and the input model of `ToolGateway.call_action` have bounds of their own, and the
patterns of the admission do not keep all of them. -/

namespace SupportGuard

open Foundation Fallible

/-! ## Arguments -/

/-- `_proposal_value` once the resource has been observed. -/
def admittedValue (admission : ActionAdmissionV2) (resourceId : String)
    (field : ProposalFieldBinding) : Json :=
  match field.source with
  | .requestReason => Json.optionalText (admission.requestReason.map String.ofList)
  | .admission => JsonMembers.value admission.extractedArguments field.sourcePath
  | .observation _ => .string resourceId

def admittedArguments (admission : ActionAdmissionV2) (resourceId : String)
    (action : ActionType) : JsonMembers :=
  (actionSpec action).proposalFields.map fun field =>
    (field.targetField, admittedValue admission resourceId field)

/-! ## The gateway -/

def keyPrefix : ActionType → String
  | .refund => "refund"
  | .apiKeyRevocation => "key-revoke"
  | .entitlementChange => "entitlement"

def resourceArgument : ActionType → String
  | .refund => "billing_record_id"
  | .apiKeyRevocation => "api_key_id"
  | .entitlementChange => "subscription_id"

/-- `RefundProposalInput`, `ApiKeyRevocationProposalInput` and, but for the check of its
target, `EntitlementChangeProposalInput`. -/
def proposalInput : ActionType → List (String × (Json → Bool))
  | .refund =>
      [("billing_record_id", validText 1 64), ("refund_reason", validText 5 2000),
        ("idempotency_key", validText 8 128)]
  | .apiKeyRevocation =>
      [("api_key_id", validText 1 128), ("reason", validText 5 2000),
        ("idempotency_key", validText 8 128)]
  | .entitlementChange =>
      [("subscription_id", validText 1 128),
        ("change_type", fun value =>
          value = .string "quota_change" || value = .string "plan_change"),
        ("target", fun value => match value with
          | .object _ => true
          | _ => false),
        ("reason", validText 5 2000), ("idempotency_key", validText 8 128)]

/-- `validate_typed_target`; the other inputs have no target. -/
def typedTargetValid (action : ActionType) (members : JsonMembers) : Bool :=
  match action, members.value "target" with
  | .entitlementChange, .object target =>
      (validateEntitlementTarget (members.value "change_type") target).isSome
  | .entitlementChange, _ => false
  | _, _ => true

/-- The input that `ToolGateway.call_action` validates. The key is made of the ticket and of
the resource. -/
def callActionInput (ticketId : String) (action : ActionType) (arguments : JsonMembers) :
    JsonMembers :=
  let visible := arguments.filter fun member => member.1 ≠ "idempotency_key"
  let resource := ((visible.lookup (resourceArgument action)).getD (.string "")).toStr
  visible ++
    [("idempotency_key", .string (keyPrefix action ++ ":" ++ ticketId ++ ":" ++ resource))]

def gatewayAccepts (ticketId : String) (action : ActionType) (arguments : JsonMembers) : Bool :=
  (validateMembers (proposalInput action) (callActionInput ticketId action arguments)).any
    fun validated => typedTargetValid action validated

/-- The schema of the action accepts the arguments in canonical form, and the gateway takes
them. -/
structure Proposable (ticketId : String) (action : ActionType) (arguments : JsonMembers) :
    Prop where
  canonical : ∃ validated, validateArguments action arguments = some validated ∧
    (Json.object validated).pyEq (.object arguments) = true
  accepted : gatewayAccepts ticketId action arguments = true

/-! ## Members in the order of their schema -/

/-- The loop of the schema over a part of the members, the induction being on that part. -/
theorem validate_aligned {members part validated : JsonMembers}
    {declared : List (String × (Json → Bool))}
    (looked : ∀ member ∈ part, members.lookup member.1 = some member.2)
    (names : part.map Prod.fst = declared.map Prod.fst) :
    (declared.mapM fun field =>
        ((members.lookup field.1).filter field.2).map fun value => (field.1, value)) =
      some validated ↔
      validated = part ∧
        List.Forall₂ (fun field member => field.2 member.2 = true) declared part := by
  induction declared generalizing part validated with
  | nil =>
      rw [List.map_nil, List.map_eq_nil_iff] at names
      subst names
      rw [List.mapM_nil]
      constructor
      · intro done
        exact ⟨(Option.some.inj done).symm, .nil⟩
      · intro aligned
        rw [aligned.1]
        rfl
  | cons field later induction =>
      cases part with
      | nil => cases names
      | cons member rest =>
          rw [List.map_cons, List.map_cons, List.cons.injEq] at names
          rw [List.forall_mem_cons] at looked
          have rests := fun tail : JsonMembers =>
            @induction rest tail looked.2 names.2
          rw [List.mapM_cons, ← names.1, looked.1]
          rcases member with ⟨name, value⟩
          by_cases valid : field.2 value = true
          · simp only [Option.filter_some, valid, if_true, Option.map_some, bind,
              Option.bind_some, Option.bind_eq_some_iff, pure, Option.some.injEq,
              List.forall₂_cons, true_and]
            constructor
            · intro mapped
              rcases mapped with ⟨tail, others, same⟩
              rcases (rests tail).mp others with ⟨equal, each⟩
              exact ⟨same.symm.trans (by rw [equal]), each⟩
            · intro aligned
              exact ⟨rest, (rests rest).mpr ⟨rfl, aligned.2⟩, aligned.1.symm⟩
          · have refused : (some value).filter field.2 = none := by simp [valid]
            rw [refused]
            constructor
            · intro mapped
              cases mapped
            · intro aligned
              exact absurd (List.forall₂_cons.mp aligned.2).1 valid

/-- Members that stand in the order of the schema are valid one by one. -/
theorem validateMembers_aligned {declared : List (String × (Json → Bool))}
    {members validated : JsonMembers} (nodup : (declared.map Prod.fst).Nodup)
    (names : members.map Prod.fst = declared.map Prod.fst) :
    validateMembers declared members = some validated ↔
      validated = members ∧
        List.Forall₂ (fun field member => field.2 member.2 = true) declared members := by
  have known : (members.all fun member => declared.any fun field => field.1 = member.1) =
      true := by
    rw [List.all_eq_true]
    intro member among
    have named : member.1 ∈ declared.map Prod.fst := names ▸ List.mem_map_of_mem among
    rcases List.mem_map.mp named with ⟨field, isDeclared, same⟩
    exact List.any_eq_true.mpr ⟨field, isDeclared, decide_eq_true same⟩
  rw [validateMembers, if_pos known]
  apply validate_aligned _ names
  intro member among
  exact (Newest.mem_iff_lookup (names ▸ nodup)).mp among

/-! ## What the schemas accept -/

theorem validText_iff {least most : Nat} {text : String} :
    validText least most (.string text) = true ↔ least ≤ text.length ∧ text.length ≤ most := by
  rw [validText, Bool.and_eq_true, decide_eq_true_eq, decide_eq_true_eq]

/-- The key of a proposal is long enough, and no longer than the gateway allows. -/
def KeyFits (ticketId resourceId : String) (action : ActionType) : Prop :=
  (keyPrefix action).length + ticketId.length + resourceId.length + 2 ≤ 128

theorem idempotencyKey_valid_iff (ticketId : String) {resourceId : String} (action : ActionType)
    (named : 1 ≤ resourceId.length) :
    validText 8 128 (.string (keyPrefix action ++ ":" ++ ticketId ++ ":" ++ resourceId)) = true ↔
      KeyFits ticketId resourceId action := by
  have colon : ":".length = 1 := by decide
  have least : 6 ≤ (keyPrefix action).length := by
    cases action <;> decide
  rw [validText_iff, KeyFits, String.length_append, String.length_append, String.length_append,
    String.length_append, colon]
  omega

variable {ticketId resourceId : String} {reason : Json}

theorem holdsNaN_of_validText {least most : Nat} {value : Json}
    (valid : validText least most value = true) : value.holdsNaN = false := by
  cases value with
  | string text => rfl
  | _ => cases valid

theorem pyEq_members {members : JsonMembers}
    (numbers : ∀ member ∈ members, member.2.holdsNaN = false) :
    (Json.object members).pyEq (.object members) = true := by
  rw [Json.pyEq_self, Json.holdsNaN, Json.membersHoldNaN_eq_false]
  exact numbers

theorem gatewayAccepts_iff {action : ActionType} {arguments input : JsonMembers}
    (called : callActionInput ticketId action arguments = input)
    (nodup : ((proposalInput action).map Prod.fst).Nodup)
    (names : input.map Prod.fst = (proposalInput action).map Prod.fst) :
    gatewayAccepts ticketId action arguments = true ↔
      List.Forall₂ (fun field member => field.2 member.2 = true) (proposalInput action) input ∧
        typedTargetValid action input = true := by
  rw [gatewayAccepts, called, Option.any_eq_true]
  constructor
  · intro accepted
    rcases accepted with ⟨validated, valid, typed⟩
    rcases (validateMembers_aligned nodup names).mp valid with ⟨rfl, each⟩
    exact ⟨each, typed⟩
  · intro accepted
    exact ⟨input, (validateMembers_aligned nodup names).mpr ⟨rfl, accepted.1⟩, accepted.2⟩

/-- An action whose arguments are a resource and a reason. -/
theorem proposable_reference_iff {action : ActionType} {idName reasonName : String} {most : Nat}
    (schema : ∀ arguments, validateArguments action arguments =
      validateMembers [(idName, validText 1 most), (reasonName, validText 5 2000)] arguments)
    (input : proposalInput action =
      [(idName, validText 1 most), (reasonName, validText 5 2000),
        ("idempotency_key", validText 8 128)])
    (distinct : [idName, reasonName, "idempotency_key"].Nodup)
    (called : callActionInput ticketId action
        [(idName, .string resourceId), (reasonName, reason)] =
      [(idName, .string resourceId), (reasonName, reason),
        ("idempotency_key",
          .string (keyPrefix action ++ ":" ++ ticketId ++ ":" ++ resourceId))])
    (untyped : ∀ members, typedTargetValid action members = true)
    (observed : 1 ≤ resourceId.length ∧ resourceId.length ≤ most) :
    Proposable ticketId action [(idName, .string resourceId), (reasonName, reason)] ↔
      validText 5 2000 reason = true ∧ KeyFits ticketId resourceId action := by
  have key := idempotencyKey_valid_iff ticketId action observed.1
  have resource : validText 1 most (.string resourceId) = true := validText_iff.mpr observed
  have short : [idName, reasonName].Nodup := distinct.sublist (by simp)
  have gateway := gatewayAccepts_iff called (by rw [input]; exact distinct) (by rw [input]; rfl)
  rw [input, List.forall₂_cons, List.forall₂_cons, List.forall₂_cons, key] at gateway
  constructor
  · intro proposable
    have accepted := (gateway.mp proposable.accepted).1
    exact ⟨accepted.2.1, accepted.2.2.1⟩
  · intro fits
    constructor
    · refine ⟨_, (schema _).trans
        ((@validateMembers_aligned
          [(idName, validText 1 most), (reasonName, validText 5 2000)] _ _ short rfl).mpr
            ⟨rfl, .cons resource (.cons fits.1 .nil)⟩), ?_⟩
      apply pyEq_members
      rw [List.forall_mem_cons, List.forall_mem_singleton]
      exact ⟨rfl, holdsNaN_of_validText fits.1⟩
    · exact gateway.mpr ⟨⟨resource, fits.1, fits.2, .nil⟩, untyped _⟩

theorem proposable_refund_iff (observed : 1 ≤ resourceId.length ∧ resourceId.length ≤ 64) :
    Proposable ticketId .refund
        [("billing_record_id", .string resourceId), ("refund_reason", reason)] ↔
      validText 5 2000 reason = true ∧ KeyFits ticketId resourceId .refund :=
  proposable_reference_iff (fun _ => rfl) rfl (by decide) rfl (fun _ => rfl) observed

theorem proposable_apiKeyRevocation_iff
    (observed : 1 ≤ resourceId.length ∧ resourceId.length ≤ 128) :
    Proposable ticketId .apiKeyRevocation
        [("api_key_id", .string resourceId), ("reason", reason)] ↔
      validText 5 2000 reason = true ∧ KeyFits ticketId resourceId .apiKeyRevocation :=
  proposable_reference_iff (fun _ => rfl) rfl (by decide) rfl (fun _ => rfl) observed

/-! ## Targets -/

/-- What the schemas of the targets allow. -/
def EntitlementTarget.Fits : EntitlementTarget → Prop
  | .concurrencyLimit value => 1 ≤ value ∧ value ≤ 100000
  | .rpmLimit value => 1 ≤ value ∧ value ≤ 10000000
  | .plan name => 1 ≤ name.length ∧ name.length ≤ 64

def EntitlementTarget.members : EntitlementTarget → JsonMembers
  | .concurrencyLimit value => [("concurrency_limit", .integer value)]
  | .rpmLimit value => [("rpm_limit", .integer value)]
  | .plan name => [("plan", .string (String.ofList name))]

theorem EntitlementTarget.toJson_eq (target : EntitlementTarget) :
    target.toJson = .object target.members := by
  cases target <;> rfl

theorem validateQuota_iff {name : String} {most value : Int} {dumped : JsonMembers}
    (bounded : (name, most) ∈ quotaBounds) :
    validateEntitlementTarget (.string "quota_change") [(name, .integer value)] = some dumped ↔
      dumped = [(name, .integer value)] ∧ 1 ≤ value ∧ value ≤ most := by
  have quota : validateEntitlementTarget (.string "quota_change") [(name, .integer value)] =
      validateQuotaTarget [(name, .integer value)] := rfl
  rw [quota, validateQuotaTarget_single bounded]
  split
  · next within =>
      rw [Option.some.injEq]
      exact ⟨fun same => ⟨same.symm, within⟩, fun fits => fits.1.symm⟩
  · next refused => exact ⟨nofun, fun fits => absurd fits.2 refused⟩

theorem validateEntitlementTarget_iff (target : EntitlementTarget) {dumped : JsonMembers} :
    validateEntitlementTarget (.string target.changeType) target.members = some dumped ↔
      dumped = target.members ∧ target.Fits := by
  cases target with
  | concurrencyLimit value =>
      exact validateQuota_iff (List.mem_cons_of_mem _ List.mem_cons_self)
  | rpmLimit value => exact validateQuota_iff List.mem_cons_self
  | plan name =>
      have plan : validateEntitlementTarget (.string "plan_change")
          [("plan", .string (String.ofList name))] =
          validateMembers [("plan", validText 1 64)] [("plan", .string (String.ofList name))] :=
        rfl
      have single : (["plan"] : List String).Nodup := List.nodup_singleton _
      rw [EntitlementTarget.changeType, EntitlementTarget.members, plan,
        @validateMembers_aligned [("plan", validText 1 64)] _ _ single rfl, List.forall₂_cons,
        validText_iff, String.length_ofList]
      exact ⟨fun both => ⟨both.1, both.2.1⟩, fun both => ⟨both.1, both.2, .nil⟩⟩

theorem validateEntitlementArguments_of {arguments validated target dumped : JsonMembers}
    (listed : validateMembers entitlementSchema arguments = some validated)
    (named : JsonMembers.value validated "target" = .object target)
    (valid : validateEntitlementTarget (JsonMembers.value validated "change_type") target =
      some dumped) :
    validateEntitlementArguments arguments = some (validated.map fun member =>
      if member.1 = "target" then (member.1, .object dumped) else member) := by
  rw [validateEntitlementArguments]
  change Option.bind (validateMembers entitlementSchema arguments) _ = _
  rw [listed, Option.bind_some, named]
  dsimp only
  rw [valid]
  rfl

/-- The arguments of a change of an entitlement. -/
def entitlementArguments (resourceId : String) (target : EntitlementTarget) (reason : Json) :
    JsonMembers :=
  [("subscription_id", .string resourceId), ("change_type", .string target.changeType),
    ("target", .object target.members), ("reason", reason)]

theorem changeType_known (target : EntitlementTarget) :
    (Json.string target.changeType = .string "quota_change" ||
      Json.string target.changeType = .string "plan_change") = true := by
  cases target with
  | concurrencyLimit value => rfl
  | rpmLimit value => rfl
  | plan name => rfl

theorem proposable_entitlement_iff (target : EntitlementTarget)
    (observed : 1 ≤ resourceId.length ∧ resourceId.length ≤ 128) :
    Proposable ticketId .entitlementChange (entitlementArguments resourceId target reason) ↔
      validText 5 2000 reason = true ∧ target.Fits ∧
        KeyFits ticketId resourceId .entitlementChange := by
  have key := idempotencyKey_valid_iff ticketId .entitlementChange observed.1
  have resource : validText 1 128 (.string resourceId) = true := validText_iff.mpr observed
  have called : callActionInput ticketId .entitlementChange
      (entitlementArguments resourceId target reason) =
      entitlementArguments resourceId target reason ++
        [("idempotency_key", .string
          (keyPrefix .entitlementChange ++ ":" ++ ticketId ++ ":" ++ resourceId))] := rfl
  have typed : typedTargetValid .entitlementChange
      (entitlementArguments resourceId target reason ++
        [("idempotency_key", .string
          (keyPrefix .entitlementChange ++ ":" ++ ticketId ++ ":" ++ resourceId))]) =
      (validateEntitlementTarget (.string target.changeType) target.members).isSome := rfl
  have gateway := gatewayAccepts_iff called (by decide) rfl
  rw [typed, entitlementArguments, proposalInput, List.cons_append, List.cons_append,
    List.cons_append, List.cons_append, List.nil_append, List.forall₂_cons, List.forall₂_cons,
    List.forall₂_cons, List.forall₂_cons, List.forall₂_cons, key, ← entitlementArguments,
    Option.isSome_iff_exists] at gateway
  constructor
  · intro proposable
    rcases gateway.mp proposable.accepted with ⟨each, dumped, valid⟩
    exact ⟨each.2.2.2.1, ((validateEntitlementTarget_iff target).mp valid).2, each.2.2.2.2.1⟩
  · intro fits
    have valid := (validateEntitlementTarget_iff target).mpr ⟨rfl, fits.2.1⟩
    have named : target.members ≠ [] := by
      cases target <;> exact List.cons_ne_nil _ _
    have schemaNames : (entitlementSchema.map Prod.fst).Nodup := by decide
    have listed : validateMembers entitlementSchema
        (entitlementArguments resourceId target reason) =
        some (entitlementArguments resourceId target reason) :=
      (validateMembers_aligned schemaNames rfl).mpr ⟨rfl, .cons resource
        (.cons (changeType_known target) (.cons (decide_eq_true named) (.cons fits.1 .nil)))⟩
    constructor
    · refine ⟨entitlementArguments resourceId target reason,
        validateEntitlementArguments_of listed rfl valid, ?_⟩
      apply pyEq_members
      rw [entitlementArguments, List.forall_mem_cons, List.forall_mem_cons,
        List.forall_mem_cons, List.forall_mem_singleton]
      refine ⟨rfl, rfl, ?_, holdsNaN_of_validText fits.1⟩
      cases target <;> rfl
    · exact gateway.mpr ⟨⟨resource, changeType_known target, rfl, fits.1, fits.2.2, .nil⟩,
        target.members, valid⟩

/-! ## The numbers that the customer names -/

section Numbers

variable {tables : TextTables}

/-- The pattern finds the text in one of the messages, within the spans that are allowed. -/
def FindsText (tables : TextTables) (regex : Regex) (groups : List Nat)
    (allowed : Option AllowedSpans) (messages : List AcceptedMessage) (text : List Char) : Prop :=
  ∃ message ∈ messages, ∃ span ∈ spansOf allowed message,
    ∃ found ∈ regex.finditer tables.isWord message.content span.1 span.2,
      ∃ place, groups.findSome? found.span = some place ∧
        text = textSlice message.content place.1 place.2

/-- The pattern finds the number. -/
def FindsNumber (tables : TextTables) (regex : Regex) (groups : List Nat)
    (allowed : Option AllowedSpans) (messages : List AcceptedMessage) (value : Int) : Prop :=
  ∃ text, FindsText tables regex groups allowed messages text ∧ textInt? text = some value

theorem fieldMatch_text {fieldName : String} {groups : List Nat} {message : AcceptedMessage}
    {found : RegexMatch} {entry : FieldMatch}
    (matched : fieldMatch fieldName groups message found = .ok entry) :
    ∃ place, groups.findSome? found.span = some place ∧
      entry.1 = textSlice message.content place.1 place.2 := by
  unfold fieldMatch at matched
  split at matched
  · cases matched
  · next place chosen =>
      rcases bind_eq_ok_iff.mp matched with ⟨source, _, same⟩
      cases same
      exact ⟨place, chosen, rfl⟩

variable {messages : List AcceptedMessage}

theorem fieldMatches_text_iff {fieldName : String} {regex : Regex} {groups : List Nat}
    {allowed : Option AllowedSpans} {entries : List FieldMatch}
    (matched : fieldMatches tables fieldName regex groups allowed messages = .ok entries)
    (text : List Char) :
    (∃ entry ∈ entries, entry.1 = text) ↔
      FindsText tables regex groups allowed messages text := by
  simp only [fieldMatches, bind_eq_ok_iff] at matched
  rcases matched with ⟨all, mapped, same⟩
  cases same
  constructor
  · intro named
    rcases named with ⟨entry, member, rfl⟩
    rcases List.mem_flatten.mp member with ⟨inner, among, inside⟩
    rcases mem_of_mapM mapped among with ⟨message, messageMember, mappedMessage⟩
    rcases mem_of_mapM mappedMessage inside with ⟨found, there, matchedPlace⟩
    rcases List.mem_flatMap.mp there with ⟨span, allowedSpan, foundMember⟩
    exact ⟨message, messageMember, span, allowedSpan, found, foundMember,
      fieldMatch_text matchedPlace⟩
  · intro finds
    rcases finds with
      ⟨message, messageMember, span, allowedSpan, found, foundMember, place, chosen, rfl⟩
    rcases exists_of_forall₂ (mapM_forall₂ mapped).flip messageMember with
      ⟨inner, among, mappedMessage⟩
    have there : found ∈ (spansOf allowed message).flatMap fun span =>
        regex.finditer tables.isWord message.content span.1 span.2 :=
      List.mem_flatMap.mpr ⟨span, allowedSpan, foundMember⟩
    rcases exists_of_forall₂ (mapM_forall₂ mappedMessage).flip there with
      ⟨entry, inside, matchedPlace⟩
    rcases fieldMatch_text matchedPlace with ⟨own, ownChosen, text_eq⟩
    rw [chosen] at ownChosen
    cases ownChosen
    exact ⟨entry, List.mem_flatten.mpr ⟨inner, among, inside⟩, text_eq⟩

/-- The targets that a pattern of numbers gives are the numbers that it finds. -/
theorem numericTargets_iff {make : Int → EntitlementTarget} {fieldName : String} {regex : Regex}
    {groups : List Nat} {allowed : Option AllowedSpans} {entries : List FieldMatch}
    {targets : List (EntitlementTarget × AdmissionFieldSource)}
    (matched : fieldMatches tables fieldName regex groups allowed messages = .ok entries)
    (read : numericTargets make (uniqueMatches tables false entries) = .ok targets)
    (target : EntitlementTarget) :
    (∃ entry ∈ targets, entry.1 = target) ↔
      ∃ value, target = make value ∧
        FindsNumber tables regex groups allowed messages value := by
  constructor
  · intro named
    rcases named with ⟨entry, member, rfl⟩
    rcases mem_of_mapM read member with ⟨place, placeMember, readPlace⟩
    rcases bind_eq_ok_iff.mp readPlace with ⟨value, readValue, same⟩
    cases same
    exact ⟨value, rfl, place.1, (fieldMatches_text_iff matched _).mp
      ⟨place, mem_of_mem_firstByKey placeMember, rfl⟩, readInteger_eq_ok readValue⟩
  · intro finds
    rcases finds with ⟨value, rfl, text, found, number⟩
    rcases (fieldMatches_text_iff matched text).mpr found with ⟨entry, member, rfl⟩
    rcases exists_mem_firstByKey (fun entry : FieldMatch => entry.1) member with
      ⟨kept, keptMember, sameText⟩
    rcases exists_of_forall₂ (mapM_forall₂ read).flip keptMember with ⟨result, among, readKept⟩
    rcases bind_eq_ok_iff.mp readKept with ⟨own, readOwn, same⟩
    cases same
    have equal := readInteger_eq_ok readOwn
    rw [sameText, number] at equal
    cases equal
    exact ⟨_, among, rfl⟩

/-- A target of the messages is a number that a pattern finds or the name of a plan, and each
number that is found is a target. -/
structure TargetsOf (tables : TextTables) (allowed : AllowedSpans)
    (messages : List AcceptedMessage) (targets : List (EntitlementTarget × AdmissionFieldSource)) :
    Prop where
  concurrency : ∀ value, (∃ entry ∈ targets, entry.1 = .concurrencyLimit value) ↔
    FindsNumber tables AdmissionPattern.concurrencyTarget [1] (some allowed) messages value
  rpm : ∀ value, (∃ entry ∈ targets, entry.1 = .rpmLimit value) ↔
    FindsNumber tables AdmissionPattern.rpmTarget [1, 2] (some allowed) messages value
  plan : ∀ entry ∈ targets, ∀ name, entry.1 = .plan name → 1 ≤ name.length ∧ name.length ≤ 64

theorem planTarget_bounds : ∀ body ∈ AdmissionPattern.planTarget.standing [1, 2],
    1 ≤ body.shortest ∧ ∃ longest, body.longest = some longest ∧ longest ≤ 64 := by
  have checked : ((AdmissionPattern.planTarget.standing [1, 2]).all fun body =>
      1 ≤ body.shortest && body.longest.any (· ≤ 64)) = true := by
    rw [AdmissionPattern.planTargetRead.same]
    decide +kernel
  intro body member
  have both := List.all_eq_true.mp checked body member
  rw [Bool.and_eq_true, decide_eq_true_eq] at both
  rcases (Option.any_eq_true _ _).mp both.2 with ⟨longest, bounded, small⟩
  exact ⟨both.1, longest, bounded, of_decide_eq_true small⟩

theorem entitlementTargets_of {allowed : AllowedSpans}
    {targets : List (EntitlementTarget × AdmissionFieldSource)}
    (resolved : entitlementTargets tables allowed messages = .ok targets) :
    TargetsOf tables allowed messages targets := by
  simp only [entitlementTargets, bind_eq_ok_iff] at resolved
  rcases resolved with ⟨concurrency, concurrencyFound, limits, limitsRead, rpm, rpmFound,
    rpmLimits, rpmRead, plans, plansFound, same⟩
  cases same
  constructor
  · intro value
    have limit := numericTargets_iff concurrencyFound limitsRead (.concurrencyLimit value)
    have other := numericTargets_iff rpmFound rpmRead (.concurrencyLimit value)
    rw [firstByKey_key_iff]
    constructor
    · intro named
      rcases named with ⟨entry, member, same⟩
      rcases List.mem_append.mp member with numbers | plan
      · rcases List.mem_append.mp numbers with first | second
        · rcases limit.mp ⟨entry, first, same⟩ with ⟨own, equal, finds⟩
          cases equal
          exact finds
        · rcases other.mp ⟨entry, second, same⟩ with ⟨own, equal, _⟩
          cases equal
      · rcases List.mem_map.mp plan with ⟨place, _, rfl⟩
        cases same
    · intro finds
      rcases limit.mpr ⟨value, rfl, finds⟩ with ⟨entry, member, same⟩
      exact ⟨entry, List.mem_append_left _ (List.mem_append_left _ member), same⟩
  · intro value
    have limit := numericTargets_iff rpmFound rpmRead (.rpmLimit value)
    have other := numericTargets_iff concurrencyFound limitsRead (.rpmLimit value)
    rw [firstByKey_key_iff]
    constructor
    · intro named
      rcases named with ⟨entry, member, same⟩
      rcases List.mem_append.mp member with numbers | plan
      · rcases List.mem_append.mp numbers with first | second
        · rcases other.mp ⟨entry, first, same⟩ with ⟨own, equal, _⟩
          cases equal
        · rcases limit.mp ⟨entry, second, same⟩ with ⟨own, equal, finds⟩
          cases equal
          exact finds
      · rcases List.mem_map.mp plan with ⟨place, _, rfl⟩
        cases same
    · intro finds
      rcases limit.mpr ⟨value, rfl, finds⟩ with ⟨entry, member, same⟩
      exact ⟨entry, List.mem_append_left _ (List.mem_append_right _ member), same⟩
  · intro entry kept name same
    rcases List.mem_append.mp (mem_of_mem_firstByKey kept) with numbers | plan
    · rcases List.mem_append.mp numbers with first | second
      · rcases (numericTargets_iff concurrencyFound limitsRead _).mp ⟨entry, first, same⟩ with
          ⟨_, equal, _⟩
        cases equal
      · rcases (numericTargets_iff rpmFound rpmRead _).mp ⟨entry, second, same⟩ with
          ⟨_, equal, _⟩
        cases equal
    · rcases List.mem_map.mp plan with ⟨place, among, rfl⟩
      cases same
      rcases fieldMatches_return tables "target.plan" (some allowed) messages
        planTarget_readsField with ⟨found, matched, fields⟩
      rw [plansFound] at matched
      cases matched
      have field := fields place (mem_of_mem_firstByKey among)
      exact ⟨field.least fun body member => (planTarget_bounds body member).1,
        field.greatest fun body member => (planTarget_bounds body member).2⟩

/-! ## Admitted requests -/

/-- Every quota that the customer names is within the bounds of its field. -/
structure AdmissionReading.LimitsFit (tables : TextTables) (reading : AdmissionReading) : Prop where
  concurrency : ∀ value, FindsNumber tables AdmissionPattern.concurrencyTarget [1]
    (some (reading.allowedSpans tables)) reading.messages value → 1 ≤ value ∧ value ≤ 100000
  rpm : ∀ value, FindsNumber tables AdmissionPattern.rpmTarget [1, 2]
    (some (reading.allowedSpans tables)) reading.messages value → 1 ≤ value ∧ value ≤ 10000000

theorem resolveActionAdmissionV2_reading {currentTurn : List Char}
    {recent : List ConversationItem} {request : AdmissionRequest} {result : ActionAdmissionV2}
    {action : ActionType}
    (resolved : resolveActionAdmissionV2 tables currentTurn recent request = .ok result)
    (admitted : result.status = .admitted) (typed : result.actionType = some action) :
    ∃ reading source, admissionReading tables currentTurn recent request = .ok reading ∧
      actionFields tables request reading.trustedContinuation reading.context reading.messages
        action = .ok (.resolved result.extractedArguments source) ∧
      result.requestReason =
        if stripSpace currentTurn = [] then none else some (stripSpace currentTurn) := by
  simp only [resolveActionAdmissionV2, bind_eq_ok_iff] at resolved
  rcases resolved with ⟨preceding, read, messages, considered, resolved⟩
  have picked : admissionReading tables currentTurn recent request = .ok _ :=
    bind_eq_ok_iff.mpr ⟨preceding, read, bind_eq_ok_iff.mpr ⟨messages, considered, rfl⟩⟩
  split at resolved
  · cases resolved
    cases admitted
  · cases resolved
    cases admitted
  · cases resolved
    cases admitted
  · cases resolved
    cases admitted
  · split at resolved
    · cases resolved
      cases admitted
    split at resolved
    · cases resolved
      cases admitted
    rw [bind_eq_ok_iff] at resolved
    rcases resolved with ⟨fields, extracted, resolved⟩
    cases fields with
    | missing field =>
        cases resolved
        cases admitted
    | mismatch reason question =>
        cases resolved
        cases admitted
    | resolved arguments source =>
        cases resolved
        cases typed
        exact ⟨_, source, picked, extracted, rfl⟩

/-- The target of an admitted change, and when it fits its schema. -/
theorem entitlementFields_target {requestedConcurrencyLimit : Option Int} {domainContext : Bool}
    {arguments : List (String × Json)} {source : AdmissionFieldSource}
    (resolved : entitlementFields tables requestedConcurrencyLimit domainContext messages =
      .ok (.resolved arguments source)) :
    ∃ target : EntitlementTarget,
      arguments = [("change_type", .string target.changeType), ("target", target.toJson)] ∧
        TargetsOf tables (actionFieldSpans tables entitlementGrammar domainContext messages)
          messages [(target, source)] := by
  simp only [entitlementFields, bind_eq_ok_iff] at resolved
  rcases resolved with ⟨targets, named, resolved⟩
  split at resolved
  · cases resolved
  · next target own =>
      split at resolved
      · cases resolved
      · cases resolved
        exact ⟨target, rfl, entitlementTargets_of named⟩
  · cases resolved

theorem TargetsOf.fits_iff {reading : AdmissionReading} {target : EntitlementTarget}
    {source : AdmissionFieldSource}
    (targets : TargetsOf tables (reading.allowedSpans tables) reading.messages
      [(target, source)]) :
    target.Fits ↔ reading.LimitsFit tables := by
  have single : ∀ wanted, (∃ entry ∈ [(target, source)], entry.1 = wanted) ↔ target = wanted := by
    intro wanted
    simp
  have limits := targets.concurrency
  have rpms := targets.rpm
  simp only [single] at limits rpms
  constructor
  · intro fits
    constructor
    · intro value finds
      rw [(limits value).mpr finds] at fits
      exact fits
    · intro value finds
      rw [(rpms value).mpr finds] at fits
      exact fits
  · intro fits
    cases target with
    | concurrencyLimit value => exact fits.concurrency value ((limits value).mp rfl)
    | rpmLimit value => exact fits.rpm value ((rpms value).mp rfl)
    | plan name => exact targets.plan _ List.mem_cons_self name rfl

def resourceBound : ActionType → Nat
  | .refund => 64
  | .apiKeyRevocation | .entitlementChange => 128

/-- The bounds that the messages have to keep: on the length of the current one, on the quotas
that are named and, with the ticket and the resource, on the length of the key. -/
structure FitsProposal (tables : TextTables) (currentTurn : List Char)
    (recent : List ConversationItem) (request : AdmissionRequest) (ticketId resourceId : String)
    (action : ActionType) : Prop where
  reason : 5 ≤ (stripSpace currentTurn).length ∧ (stripSpace currentTurn).length ≤ 2000
  limits : action = .entitlementChange →
    ∀ reading, admissionReading tables currentTurn recent request = .ok reading →
      reading.LimitsFit tables
  key : KeyFits ticketId resourceId action

theorem reason_valid_iff {text : List Char} :
    validText 5 2000 (Json.optionalText ((if text = [] then none else some text).map
        String.ofList)) = true ↔ 5 ≤ text.length ∧ text.length ≤ 2000 := by
  by_cases empty : text = []
  · subst empty
    simp [Json.optionalText, validText]
  · rw [if_neg empty, Option.map_some, Json.optionalText, validText_iff, String.length_ofList]

/-- The arguments of an admitted request, with the resource that was observed, make a proposal
just when the messages keep its bounds. -/
theorem admitted_proposable_iff {tables : TextTables} {currentTurn : List Char}
    {recent : List ConversationItem} {request : AdmissionRequest} {result : ActionAdmissionV2}
    {action : ActionType} {ticketId resourceId : String}
    (resolved : resolveActionAdmissionV2 tables currentTurn recent request = .ok result)
    (admitted : result.status = .admitted) (typed : result.actionType = some action)
    (observed : 1 ≤ resourceId.length ∧ resourceId.length ≤ resourceBound action) :
    Proposable ticketId action (admittedArguments result resourceId action) ↔
      FitsProposal tables currentTurn recent request ticketId resourceId action := by
  rcases resolveActionAdmissionV2_reading resolved admitted typed with
    ⟨reading, source, picked, extracted, reason⟩
  have reasonValid := @reason_valid_iff (stripSpace currentTurn)
  rw [← reason] at reasonValid
  cases action with
  | refund =>
      have accepts := @proposable_refund_iff ticketId resourceId
        (Json.optionalText (result.requestReason.map String.ofList)) observed
      rw [reasonValid] at accepts
      apply Iff.trans accepts
      exact ⟨fun fits => ⟨fits.1, nofun, fits.2⟩, fun fits => ⟨fits.reason, fits.key⟩⟩
  | apiKeyRevocation =>
      have accepts := @proposable_apiKeyRevocation_iff ticketId resourceId
        (Json.optionalText (result.requestReason.map String.ofList)) observed
      rw [reasonValid] at accepts
      apply Iff.trans accepts
      exact ⟨fun fits => ⟨fits.1, nofun, fits.2⟩, fun fits => ⟨fits.reason, fits.key⟩⟩
  | entitlementChange =>
      rcases entitlementFields_target extracted with ⟨target, arguments, targets⟩
      have made : admittedArguments result resourceId .entitlementChange =
          entitlementArguments resourceId target
            (Json.optionalText (result.requestReason.map String.ofList)) := by
        have fields : admittedArguments result resourceId .entitlementChange =
            [("subscription_id", .string resourceId),
              ("change_type", JsonMembers.value result.extractedArguments "change_type"),
              ("target", JsonMembers.value result.extractedArguments "target"),
              ("reason", Json.optionalText (result.requestReason.map String.ofList))] := rfl
        rw [fields, arguments, entitlementArguments, ← target.toJson_eq]
        rfl
      have accepts := @proposable_entitlement_iff ticketId resourceId
        (Json.optionalText (result.requestReason.map String.ofList)) target observed
      rw [made, accepts, reasonValid, targets.fits_iff]
      constructor
      · intro fits
        apply FitsProposal.mk fits.1 _ fits.2.2
        intro _ other otherPicked
        rw [picked] at otherPicked
        cases otherPicked
        exact fits.2.1
      · intro fits
        exact ⟨fits.reason, fits.limits rfl reading picked, fits.key⟩

end Numbers

theorem admitted_proposable_iff_refund :
    ∃ result, resolveActionAdmissionV2 plainTables refundTurn refundConversation refundRequest =
        .ok result ∧ result.status = .admitted ∧
      Proposable "ticket_1" .refund (admittedArguments result "bill_1" .refund) := by
  rcases ok_of_any refundTurn_admitted with ⟨result, resolved, holds⟩
  rw [Bool.and_eq_true, decide_eq_true_eq, decide_eq_true_eq] at holds
  have bounded : 1 ≤ "bill_1".length ∧ "bill_1".length ≤ resourceBound .refund := by
    decide +kernel
  refine ⟨result, resolved, holds.1, ?_⟩
  apply (admitted_proposable_iff resolved holds.1 holds.2 bounded).mpr
  constructor
  · decide +kernel
  · exact nofun
  · have key : (keyPrefix .refund).length + "ticket_1".length + "bill_1".length + 2 ≤ 128 := by
      decide +kernel
    exact key

/-- The customer has named the record before. -/
def billedConversation : List ConversationItem :=
  [[("role", .string "customer"), ("content", .string "bill_1")]]

def shortTurn : List Char := "这笔退款".toList

theorem shortTurn_admitsRefund :
    (resolveActionAdmissionV2 plainTables shortTurn billedConversation
      refundRequest).toOption.any (fun result => decide (result.status = .admitted) &&
        decide (result.actionType = some .refund) &&
        !gatewayAccepts "ticket_1" .refund (admittedArguments result "bill_1" .refund)) =
      true := by
  rw [admissionRead.same]
  decide +kernel

/-- Four characters are enough for a request, but not for the reason of a proposal. -/
theorem admitted_reason_short :
    ∃ result, resolveActionAdmissionV2 plainTables shortTurn billedConversation refundRequest =
        .ok result ∧ result.status = .admitted ∧ result.actionType = some .refund ∧
      ¬Proposable "ticket_1" .refund (admittedArguments result "bill_1" .refund) := by
  rcases ok_of_any shortTurn_admitsRefund with ⟨result, resolved, holds⟩
  rw [Bool.and_eq_true, Bool.and_eq_true, decide_eq_true_eq, decide_eq_true_eq,
    Bool.not_eq_true'] at holds
  refine ⟨result, resolved, holds.1.1, holds.1.2, ?_⟩
  intro proposable
  rw [proposable.accepted] at holds
  cases holds.2

end SupportGuard
