import SupportGuard.Agent.CandidateRevalidation
import SupportGuard.Services.EntitlementBounds

/-! # Edits of an approval

An approver may rewrite one field of an action. The input, the edit and the schema of the
proposal each check that field. -/

namespace SupportGuard

open Foundation Fallible

/-! ## The input -/

structure ApprovalEditChanges where
  refundReason : Option String
  targetConcurrency : Option Int
deriving DecidableEq

structure EditApprovalInput where
  reason : Option String
  approverNote : Option String
  changes : Option ApprovalEditChanges
  refundReason : Option String
deriving DecidableEq

def textBetween (minimum maximum : Nat) : Json → Option String
  | .string text => if minimum ≤ text.length ∧ text.length ≤ maximum then some text else none
  | _ => none

def integerBetween (minimum maximum : Int) : Json → Option Int
  | .integer value => if minimum ≤ value ∧ value ≤ maximum then some value else none
  | _ => none

/-- A field that may be absent or null; none where its value is not accepted. -/
def optionalField {Value : Type} (accept : Json → Option Value) (members : JsonMembers)
    (key : String) : Option (Option Value) :=
  match members.lookup key with
  | none => some none
  | some .null => some none
  | some value => (accept value).map some

def declaresOnly (names : List String) (members : JsonMembers) : Bool :=
  members.all fun member => member.1 ∈ names

namespace ApprovalEditChanges

/-- `ApprovalEditChanges.model_validate`: exactly one change. -/
def validate : Json → Option ApprovalEditChanges
  | .object members => do
      let refundReason ← optionalField (textBetween 5 2000) members "refund_reason"
      let targetConcurrency ←
        optionalField (integerBetween 1 maxTargetConcurrency) members "target_concurrency"
      if declaresOnly ["refund_reason", "target_concurrency"] members ∧
          refundReason.isSome.toNat + targetConcurrency.isSome.toNat = 1 then
        some { refundReason, targetConcurrency }
      else none
  | _ => none

/-- `model_dump(exclude_none=True)`. -/
def dump (changes : ApprovalEditChanges) : JsonMembers :=
  (changes.refundReason.map fun reason => ("refund_reason", Json.string reason)).toList ++
    (changes.targetConcurrency.map fun limit => ("target_concurrency", Json.integer limit)).toList

end ApprovalEditChanges

namespace EditApprovalInput

/-- `EditApprovalInput.model_validate`: the changes or the field of the older input. -/
def validate : Json → Option EditApprovalInput
  | .object members => do
      let reason ← optionalField (textBetween 3 2000) members "reason"
      let approverNote ← optionalField (textBetween 0 2000) members "approver_note"
      let changes ← optionalField ApprovalEditChanges.validate members "changes"
      let refundReason ← optionalField (textBetween 5 2000) members "refund_reason"
      if declaresOnly ["reason", "approver_note", "changes", "refund_reason"] members ∧
          changes.isNone ≠ refundReason.isNone then
        some { reason, approverNote, changes, refundReason }
      else none
  | _ => none

def editedPayload (input : EditApprovalInput) : JsonMembers :=
  match input.changes with
  | some changes => changes.dump
  | none => [("refund_reason", .string (input.refundReason.getD ""))]

end EditApprovalInput

/-! ## The edits an input carries -/

/-- The one field an accepted input edits. -/
inductive EditsOne : JsonMembers → Prop
  | refundReason (reason : String) (long : 5 ≤ reason.length) (short : reason.length ≤ 2000) :
      EditsOne [("refund_reason", .string reason)]
  | targetConcurrency (limit : Int) (positive : 1 ≤ limit)
      (bounded : limit ≤ maxTargetConcurrency) :
      EditsOne [("target_concurrency", .integer limit)]

theorem textBetween_eq_some {minimum maximum : Nat} {value : Json} {text : String}
    (accepted : textBetween minimum maximum value = some text) :
    value = .string text ∧ minimum ≤ text.length ∧ text.length ≤ maximum := by
  cases value with
  | string other =>
      rw [textBetween] at accepted
      split at accepted
      · rename_i within
        cases accepted
        exact ⟨rfl, within⟩
      · cases accepted
  | _ => cases accepted

theorem integerBetween_eq_some {minimum maximum : Int} {value : Json} {number : Int}
    (accepted : integerBetween minimum maximum value = some number) :
    value = .integer number ∧ minimum ≤ number ∧ number ≤ maximum := by
  cases value with
  | integer other =>
      rw [integerBetween] at accepted
      split at accepted
      · rename_i within
        cases accepted
        exact ⟨rfl, within⟩
      · cases accepted
  | _ => cases accepted

theorem optionalField_eq_some {Value : Type} {accept : Json → Option Value}
    {members : JsonMembers} {key : String} {value : Value}
    (accepted : optionalField accept members key = some (some value)) :
    ∃ present, members.lookup key = some present ∧ accept present = some value := by
  rw [optionalField] at accepted
  split at accepted
  · cases accepted
  · cases accepted
  · rename_i found
    rw [Option.map_eq_some_iff] at accepted
    rcases accepted with ⟨same, parsed, equal⟩
    cases equal
    exact ⟨_, found, parsed⟩

theorem ApprovalEditChanges.dump_editsOne {value : Json} {changes : ApprovalEditChanges}
    (accepted : ApprovalEditChanges.validate value = some changes) : EditsOne changes.dump := by
  cases value with
  | object members =>
      simp only [ApprovalEditChanges.validate, Option.bind_eq_bind, Option.bind_eq_some_iff]
        at accepted
      rcases accepted with ⟨refundReason, isReason, targetConcurrency, isTarget, accepted⟩
      split at accepted
      · rename_i allowed
        cases accepted
        cases refundReason with
        | none =>
            cases targetConcurrency with
            | none => exact absurd allowed.2 (by decide)
            | some limit =>
                rcases optionalField_eq_some isTarget with ⟨_, _, parsed⟩
                rcases integerBetween_eq_some parsed with ⟨_, positive, bounded⟩
                exact .targetConcurrency limit positive bounded
        | some reason =>
            rcases optionalField_eq_some isReason with ⟨_, _, parsed⟩
            rcases textBetween_eq_some parsed with ⟨_, long, short⟩
            cases targetConcurrency with
            | none => exact .refundReason reason long short
            | some limit => cases allowed.2
      · cases accepted
  | _ => cases accepted

theorem EditApprovalInput.editedPayload_editsOne {body : Json} {input : EditApprovalInput}
    (accepted : EditApprovalInput.validate body = some input) : EditsOne input.editedPayload := by
  cases body with
  | object members =>
      simp only [EditApprovalInput.validate, Option.bind_eq_bind, Option.bind_eq_some_iff]
        at accepted
      rcases accepted with ⟨reason, _, approverNote, _, changes, isChanges, refundReason, isReason,
        accepted⟩
      split at accepted
      · rename_i allowed
        cases accepted
        cases changes with
        | some changes =>
            rcases optionalField_eq_some isChanges with ⟨_, _, parsed⟩
            exact ApprovalEditChanges.dump_editsOne parsed
        | none =>
            cases refundReason with
            | none => exact absurd allowed.2 (by decide)
            | some reason =>
                rcases optionalField_eq_some isReason with ⟨_, _, parsed⟩
                rcases textBetween_eq_some parsed with ⟨_, long, short⟩
                exact .refundReason reason long short
      · cases accepted
  | _ => cases accepted

/-! ## The schema of the proposal -/

/-- The fields that the schema of an action's proposal declares. -/
def schemaFields : ActionType → List String
  | .refund => ["billing_record_id", "refund_reason"]
  | .apiKeyRevocation => ["api_key_id", "reason"]
  | .entitlementChange => ["subscription_id", "change_type", "target", "reason"]

/-- The proposal fields of a payload satisfy the schema. -/
def fitsSchema (actionType : String) (payload : JsonMembers) : Bool :=
  (ActionType.ofText? actionType).any fun kind =>
    (validateArguments kind (payload.filter fun member => member.1 ∈ schemaFields kind)).isSome

theorem lookup_filter_names {names : List String} {key : String} (named : key ∈ names)
    (payload : JsonMembers) :
    (payload.filter fun member => member.1 ∈ names).lookup key = payload.lookup key := by
  induction payload with
  | nil => rfl
  | cons member rest induction =>
      rcases member with ⟨name, value⟩
      rw [List.filter_cons]
      by_cases kept : name ∈ names
      · rw [if_pos (decide_eq_true kept), List.lookup_cons, List.lookup_cons, induction]
      · have other : key ≠ name := fun same => kept (same ▸ named)
        rw [if_neg (by simpa using kept), List.lookup_cons, beq_false_of_ne other, induction]

theorem validateMembers_isSome_iff {declared : List (String × (Json → Bool))}
    {payload : JsonMembers} :
    (validateMembers declared
        (payload.filter fun member => member.1 ∈ declared.map Prod.fst)).isSome ↔
      ∀ field ∈ declared, (payload.lookup field.1).any field.2 := by
  have known : ((payload.filter fun member => member.1 ∈ declared.map Prod.fst).all
      fun member => declared.any fun field => field.1 = member.1) = true := by
    rw [List.all_eq_true]
    intro member among
    rcases List.mem_map.mp (of_decide_eq_true (List.mem_filter.mp among).2) with
      ⟨field, isDeclared, same⟩
    exact List.any_eq_true.mpr ⟨field, isDeclared, decide_eq_true same⟩
  rw [validateMembers, if_pos known, mapM_isSome_iff]
  apply forall_congr'
  intro field
  apply imp_congr_right
  intro among
  rw [lookup_filter_names (List.mem_map_of_mem among), Option.isSome_map, Option.isSome_filter]

theorem fitsSchema_refund_iff {payload : JsonMembers} :
    fitsSchema "refund" payload ↔
      (payload.lookup "billing_record_id").any (validText 1 64) ∧
        (payload.lookup "refund_reason").any (validText 5 2000) := by
  have schema := @validateMembers_isSome_iff
    [("billing_record_id", validText 1 64), ("refund_reason", validText 5 2000)] payload
  rw [List.forall_mem_cons, List.forall_mem_singleton] at schema
  exact schema

/-- A dump has the values of the members it was made from. -/
theorem validateMembers_value {declared : List (String × (Json → Bool))}
    {members validated : JsonMembers} {name : String}
    (valid : validateMembers declared members = some validated)
    (among : name ∈ declared.map Prod.fst) :
    JsonMembers.value validated name = members.value name := by
  have each := validateMembers_forall₂ valid
  clear valid
  rw [JsonMembers.value, JsonMembers.value]
  induction each with
  | nil => cases among
  | @cons field member _ _ found _ induction =>
      rcases member with ⟨own, value⟩
      rcases found with ⟨sameName, looked, _⟩
      dsimp only at sameName looked
      rw [List.lookup_cons]
      by_cases first : name = own
      · rw [first, beq_self_eq_true, sameName, looked]
      · rw [beq_false_of_ne first]
        apply induction
        rcases List.mem_cons.mp among with same | later
        · exact absurd (same.trans sameName.symm) first
        · exact later

/-- A quota target is a single limit within the bounds of the schema. -/
theorem validateQuotaTarget_concurrency_iff {limit : Int} :
    (validateQuotaTarget [("concurrency_limit", .integer limit)]).isSome ↔
      1 ≤ limit ∧ limit ≤ 100000 := by
  rw [validateQuotaTarget_single (List.mem_cons_of_mem _ List.mem_cons_self)]
  split
  · next within => exact ⟨fun _ => within, fun _ => rfl⟩
  · next refused => exact ⟨nofun, fun within => absurd within refused⟩

theorem quotaTarget_nonempty {target : JsonMembers}
    (valid : (validateQuotaTarget target).isSome) : target ≠ [] := by
  intro empty
  rw [empty] at valid
  cases valid

/-- The declared fields before the target is looked into. -/
def entitlementSchema : List (String × (Json → Bool)) :=
  [("subscription_id", validText 1 128),
    ("change_type", fun value =>
      value = .string "quota_change" || value = .string "plan_change"),
    ("target", fun value => match value with
      | .object members => members ≠ []
      | _ => false),
    ("reason", validText 5 2000)]

theorem validateEntitlementArguments_isSome_iff {arguments target : JsonMembers}
    (quota : arguments.value "change_type" = .string "quota_change")
    (named : arguments.value "target" = .object target) :
    (validateEntitlementArguments arguments).isSome ↔
      (validateMembers entitlementSchema arguments).isSome ∧
        (validateQuotaTarget target).isSome := by
  have unfolded : validateEntitlementArguments arguments =
      (validateMembers entitlementSchema arguments).bind fun validated =>
        match JsonMembers.value validated "target" with
        | .object target =>
            (validateEntitlementTarget (JsonMembers.value validated "change_type") target).bind
              fun target => some (validated.map fun member =>
                if member.1 = "target" then (member.1, .object target) else member)
        | _ => none := rfl
  rw [unfolded]
  cases listed : validateMembers entitlementSchema arguments with
  | none => simp
  | some validated =>
      rw [Option.bind_some, validateMembers_value listed (by decide), named]
      dsimp only
      rw [validateMembers_value listed (by decide), quota, validateEntitlementTarget, if_pos rfl]
      cases validateQuotaTarget target with
      | none => simp
      | some dumped => simp

theorem fitsSchema_entitlement_iff {payload target : JsonMembers}
    (quota : payload.lookup "change_type" = some (.string "quota_change"))
    (named : payload.lookup "target" = some (.object target)) :
    fitsSchema "entitlement_change" payload ↔
      (payload.lookup "subscription_id").any (validText 1 128) ∧
        (payload.lookup "reason").any (validText 5 2000) ∧ (validateQuotaTarget target).isSome := by
  have members := @validateMembers_isSome_iff entitlementSchema payload
  rw [entitlementSchema, List.forall_mem_cons, List.forall_mem_cons, List.forall_mem_cons,
    List.forall_mem_singleton, ← entitlementSchema] at members
  have schema : fitsSchema "entitlement_change" payload ↔ _ :=
    @validateEntitlementArguments_isSome_iff
      (payload.filter fun member => member.1 ∈ schemaFields .entitlementChange) target
      (by rw [JsonMembers.value, lookup_filter_names (by decide), quota, Option.getD_some])
      (by rw [JsonMembers.value, lookup_filter_names (by decide), named, Option.getD_some])
  rw [schema]
  constructor
  · intro valid
    rcases members.mp valid.1 with ⟨subscription, _, _, reason⟩
    exact ⟨subscription, reason, valid.2⟩
  · intro valid
    refine ⟨members.mpr ⟨valid.1, ?_, ?_, valid.2.1⟩, valid.2.2⟩
    · rw [quota]
      rfl
    · rw [named]
      exact decide_eq_true (quotaTarget_nonempty valid.2.2)

/-! ## What an edit keeps -/

/-- An action payload: a dictionary with a hash, as every approval has one. -/
structure ActionPayload where
  members : JsonMembers
  hashed : (actionHash members).isOk

def SameElsewhere (key : String) (left right : JsonMembers) : Prop :=
  ∀ other, other ≠ key → right.lookup other = left.lookup other

/-- Only the field that an approver may rewrite differs. -/
def EditsOnly (actionType : String) (base revised : JsonMembers) : Prop :=
  if actionType = "refund" then SameElsewhere "refund_reason" base revised
  else SameElsewhere "target" base revised ∧
    ∃ target revisedTarget, base.lookup "target" = some (.object target) ∧
      revised.lookup "target" = some (.object revisedTarget) ∧
        SameElsewhere "concurrency_limit" target revisedTarget

/-- A revision within the contract of the action. -/
structure WithinContract (actionType : String) (base revised : JsonMembers) : Prop where
  fits : fitsSchema actionType revised
  editsOnly : EditsOnly actionType base revised
  recognized : revisionMatchesApprovalEdit actionType base revised

/-- The bounds of the schema for the field that is edited. -/
def WithinSchema (edited : JsonMembers) : Prop :=
  (∀ reason, edited.lookup "refund_reason" = some (.string reason) →
      5 ≤ (stripped reason).length) ∧
    ∀ limit, edited.lookup "target_concurrency" = some (.integer limit) → limit ≤ 100000

theorem ActionPayload.holdsNaN (payload : ActionPayload) :
    (Json.object payload.members).holdsNaN = false := by
  have hashed := payload.hashed
  rw [actionHash, canonicalHash] at hashed
  cases computed : canonicalJsonHash (PyValue.ofJson (.object payload.members)) with
  | error raised =>
      rw [computed] at hashed
      cases hashed
  | ok hash =>
      rcases bind_eq_ok_iff.mp computed with ⟨bytes, encoded, _⟩
      rcases bind_eq_ok_iff.mp encoded with ⟨tree, projected, _⟩
      exact project_ofJson_holdsNaN _ projected

/-! ## The edits of each action -/

variable {base revised : JsonMembers}

/-- The edit that `apply_approval_edit` carries out. -/
inductive Edited (base : JsonMembers) : String → JsonMembers → JsonMembers → Prop
  | refundReason (reason : String) (written : stripped reason ≠ "") :
      Edited base "refund" [("refund_reason", .string reason)]
        (assign base "refund_reason" (.string (stripped reason)))
  | targetConcurrency (limit : Int) (target : JsonMembers) (positive : 1 ≤ limit)
      (bounded : limit ≤ maxTargetConcurrency)
      (quota : base.lookup "change_type" = some (.string "quota_change"))
      (named : base.lookup "target" = some (.object target))
      (only : onlyKey target "concurrency_limit") :
      Edited base "entitlement_change" [("target_concurrency", .integer limit)]
        (assign base "target" (.object [("concurrency_limit", .integer limit)]))

variable {edited : JsonMembers} {actionType : String}

theorem applyApprovalEdit_edited (one : EditsOne edited)
    (applied : applyApprovalEdit actionType base edited = some revised) :
    Edited base actionType edited revised := by
  rw [applyApprovalEdit] at applied
  split_ifs at applied with refund allowed entitlement allowed
  · subst refund
    cases one with
    | targetConcurrency limit => cases allowed
    | refundReason reason =>
        rw [List.lookup_cons_self, requiredText] at applied
        split_ifs at applied with blank
        · cases applied
        · cases applied
          exact .refundReason reason blank
  · subst entitlement
    cases one with
    | refundReason reason => cases allowed
    | targetConcurrency limit positive bounded =>
        split at applied
        · rename_i target quota named
          split_ifs at applied with only
          rw [List.lookup_cons_self, requiredTargetConcurrency, if_pos ⟨positive, bounded⟩]
            at applied
          cases applied
          exact .targetConcurrency limit target positive bounded quota named only
        · cases applied

theorem stripped_stripped (text : String) : stripped (stripped text) = stripped text := by
  rw [stripped, stripped, String.toList_ofList, stripSpace_stripSpace]

theorem length_stripped_le (text : String) : (stripped text).length ≤ text.length := by
  rw [stripped, String.length_ofList, ← String.length_toList]
  exact length_stripSpace_le text.toList

theorem sameElsewhere_assign (key : String) (value : Json) (members : JsonMembers) :
    SameElsewhere key members (assign members key value) :=
  fun _ other => lookup_assign_of_ne other

theorem lookup_singleton_of_ne {key other : String} {value : Json} (different : other ≠ key) :
    List.lookup other [(key, value)] = none := by
  rw [List.lookup_cons, beq_false_of_ne different, List.lookup_nil]

/-- Every edit stays within its field. -/
theorem Edited.editsOnly (edits : Edited base actionType edited revised) :
    EditsOnly actionType base revised := by
  cases edits with
  | refundReason reason written => exact sameElsewhere_assign _ _ _
  | targetConcurrency limit target positive bounded quota named only =>
      refine ⟨sameElsewhere_assign _ _ _, target, _, named, lookup_assign_self _ _ _, ?_⟩
      intro other different
      rw [lookup_of_onlyKey only different, lookup_singleton_of_ne different]

theorem holdsNaN_assign {key : String} {value : Json}
    (plain : (Json.object base).holdsNaN = false) (added : value.holdsNaN = false) :
    (Json.object (assign base key value)).holdsNaN = false := by
  rw [Json.holdsNaN, Json.membersHoldNaN_eq_false] at plain ⊢
  intro member among
  rcases mem_assign among with old | equal
  · exact plain member old
  · rw [equal]
    exact added

theorem onlyKey_singleton (key : String) (value : Json) : onlyKey [(key, value)] key := by
  simp [onlyKey]

theorem Edited.applied (edits : Edited base actionType edited revised) :
    applyApprovalEdit actionType base edited = some revised := by
  cases edits with
  | refundReason reason written =>
      rw [applyApprovalEdit, if_pos rfl, if_pos (onlyKey_singleton _ _), List.lookup_cons_self,
        requiredText, if_neg written, Option.map_some]
  | targetConcurrency limit target positive bounded quota named only =>
      rw [applyApprovalEdit, if_neg (by decide), if_pos rfl, if_pos (onlyKey_singleton _ _), quota,
        named]
      split
      · rename_i members isQuota isTarget
        cases isTarget
        rw [if_pos only, List.lookup_cons_self, requiredTargetConcurrency,
          if_pos ⟨positive, bounded⟩, Option.map_some]
      · rename_i refused
        exact absurd rfl (refused target rfl)

/-- The revision that an edit makes is recognised again. -/
theorem Edited.recognized (edits : Edited base actionType edited revised)
    (plain : (Json.object base).holdsNaN = false) :
    revisionMatchesApprovalEdit actionType base revised := by
  cases edits with
  | refundReason reason written =>
      have again := (@Edited.refundReason base (stripped reason)
        (by rwa [stripped_stripped])).applied
      rw [stripped_stripped] at again
      rw [revisionMatchesApprovalEdit]
      dsimp only
      rw [if_pos rfl, member, memberOr, lookup_assign_self, Option.getD_some, again]
      exact Json.pyEq_self.mpr (holdsNaN_assign plain rfl)
  | targetConcurrency limit target positive bounded quota named only =>
      have again :=
        (Edited.targetConcurrency limit target positive bounded quota named only).applied
      rw [revisionMatchesApprovalEdit]
      dsimp only
      rw [if_neg (by decide), if_pos rfl, lookup_assign_self]
      dsimp only
      rw [member, memberOr, List.lookup_cons_self, Option.getD_some, again]
      exact Json.pyEq_self.mpr (holdsNaN_assign plain rfl)

theorem EditsOne.short (one : EditsOne edited) (reason : String)
    (named : edited.lookup "refund_reason" = some (.string reason)) : reason.length ≤ 2000 := by
  cases one with
  | refundReason _ long short =>
      cases named
      exact short
  | targetConcurrency limit =>
      rw [lookup_singleton_of_ne (by decide)] at named
      cases named

theorem any_validText_iff {minimum maximum : Nat} {text : String} :
    (some (Json.string text)).any (validText minimum maximum) ↔
      minimum ≤ text.length ∧ text.length ≤ maximum := by
  rw [Option.any_some, validText, Bool.and_eq_true, decide_eq_true_iff, decide_eq_true_iff]

/-- An edit of a payload within the schema stays within it just when the field does. -/
theorem Edited.fitsSchema_iff (edits : Edited base actionType edited revised)
    (one : EditsOne edited) (fits : fitsSchema actionType base) :
    fitsSchema actionType revised ↔ WithinSchema edited := by
  cases edits with
  | refundReason reason written =>
      have short := (length_stripped_le reason).trans (one.short reason rfl)
      rw [fitsSchema_refund_iff] at fits ⊢
      rw [lookup_assign_of_ne (by decide), lookup_assign_self, any_validText_iff]
      constructor
      · intro valid
        constructor
        · intro other same
          cases same
          exact valid.2.1
        · intro limit absent
          rw [lookup_singleton_of_ne (by decide)] at absent
          cases absent
      · intro within
        exact ⟨fits.1, within.1 reason rfl, short⟩
  | targetConcurrency limit target positive bounded quota named only =>
      have sameType :
          (assign base "target" (.object [("concurrency_limit", .integer limit)])).lookup
          "change_type" = some (.string "quota_change") := by
        rw [lookup_assign_of_ne (by decide), quota]
      rw [fitsSchema_entitlement_iff quota named] at fits
      rw [fitsSchema_entitlement_iff sameType (lookup_assign_self _ _ _),
        lookup_assign_of_ne (by decide), lookup_assign_of_ne (by decide),
        validateQuotaTarget_concurrency_iff]
      constructor
      · intro valid
        constructor
        · intro reason absent
          rw [lookup_singleton_of_ne (by decide)] at absent
          cases absent
        · intro other same
          cases same
          exact valid.2.2.2
      · intro within
        exact ⟨fits.1, fits.2.1, positive, within.2 limit rfl⟩

/-! ## The contract of an edit -/

/-- An accepted edit stays within the contract of the action just when the edited field is
within the bounds of the schema, and a revision is recognised only as the result of an edit. -/
theorem approvalEdit_withinContract_iff (actionType : String) (base : ActionPayload)
    (fits : fitsSchema actionType base.members) :
    (∀ body input revised, EditApprovalInput.validate body = some input →
      applyApprovalEdit actionType base.members input.editedPayload = some revised →
        (WithinContract actionType base.members revised ↔ WithinSchema input.editedPayload)) ∧
      ∀ revision, revisionMatchesApprovalEdit actionType base.members revision →
        ∃ edited result, applyApprovalEdit actionType base.members edited = some result ∧
          (Json.object result).pyEq (.object revision) := by
  constructor
  · intro body input revised accepted applied
    have one := EditApprovalInput.editedPayload_editsOne accepted
    have edits := applyApprovalEdit_edited one applied
    constructor
    · intro within
      exact (edits.fitsSchema_iff one fits).mp within.fits
    · intro within
      exact ⟨(edits.fitsSchema_iff one fits).mpr within, edits.editsOnly,
        edits.recognized base.holdsNaN⟩
  · intro revision recognized
    rw [revisionMatchesApprovalEdit] at recognized
    dsimp only at recognized
    split_ifs at recognized with refund entitlement
    · rcases (Option.any_eq_true _ _).mp recognized with ⟨result, applied, equal⟩
      exact ⟨_, result, applied, equal⟩
    · split at recognized
      · rcases (Option.any_eq_true _ _).mp recognized with ⟨result, applied, equal⟩
        exact ⟨_, result, applied, equal⟩
      · cases recognized

def concurrencyChange : ActionPayload where
  members :=
    [("subscription_id", .string "sub_demo"), ("customer_id", .string "cust_demo"),
      ("change_type", .string "quota_change"),
      ("target", .object [("concurrency_limit", .integer 40)]),
      ("reason", .string "Customer requested a concurrency adjustment."),
      ("business_version", .integer 3)]
  hashed := by decide +kernel

def duplicateRefund : ActionPayload where
  members :=
    [("billing_record_id", .string "bill_demo"), ("customer_id", .string "cust_demo"),
      ("amount", .string "49.00"), ("currency", .string "USD"), ("business_version", .integer 2),
      ("refund_reason", .string "Duplicate charge.")]
  hashed := by decide +kernel

/-- An input that makes one change. -/
def changeBody (key : String) (value : Json) : Json :=
  .object [("changes", .object [(key, value)])]

/-- The target that an edit sets. -/
theorem approvalEdit_withinContract_target :
    ∃ revised,
      applyApprovalEdit "entitlement_change" concurrencyChange.members
          [("target_concurrency", .integer 48)] = some revised ∧
        WithinContract "entitlement_change" concurrencyChange.members revised := by
  have edits := approvalEdit_withinContract_iff "entitlement_change" concurrencyChange (by decide)
  have within : WithinSchema [("target_concurrency", .integer 48)] := by
    constructor
    · intro reason named
      rw [lookup_singleton_of_ne (by decide)] at named
      cases named
    · intro limit named
      cases named
      decide
  exact ⟨_, rfl, (edits.1 (changeBody "target_concurrency" (.integer 48)) _ _ rfl rfl).mpr within⟩

/-- What an input carries and the edit makes of a payload is refused by the schema. -/
def leavesSchema (actionType : String) (base : JsonMembers) (body : Json) : Bool :=
  fitsSchema actionType base &&
    (EditApprovalInput.validate body).any fun input =>
      (applyApprovalEdit actionType base input.editedPayload).any fun revised =>
        !fitsSchema actionType revised

/-- A target above the bound of the schema, and a reason that is short once stripped. -/
theorem approvalEdit_leavesSchema :
    leavesSchema "entitlement_change" concurrencyChange.members
        (changeBody "target_concurrency" (.integer 200000)) ∧
      leavesSchema "refund" duplicateRefund.members
        (changeBody "refund_reason" (.string "   ok")) := by
  decide +kernel

end SupportGuard
