import SupportGuard.Agent.EvidenceDecision
import SupportGuard.Agent.Obligations
import SupportGuard.Contracts.AdmissionGrounds
import SupportGuard.Foundation.AsciiText
import SupportGuard.Foundation.HashChain

/-! # One scope, hashed in three places

`_observation_scope` of `agent/obligations.py` hashes the ids of an observation
that brings no hash of its own, `_normalize_gateway_result` hashes the ids of the
run, and `resolve_action_admission_v2` those of the admitted request. The last
two write ASCII and the first writes the characters themselves. -/

namespace SupportGuard

open Foundation Fallible

/-- The dictionary all three hash. -/
def scopePayload (tenantId customerId : String) : Json :=
  .object [("customer_id", .string customerId), ("tenant_id", .string tenantId)]

/-- `scope` of `_normalize_gateway_result`, from the ids of the run. -/
def gatewayScope (tenantId customerId : String) : JsonMembers :=
  [("tenant_id", .string tenantId),
    ("customer_id", .string customerId),
    ("scope_hash", .string (Sha256.hexDigest (JsonText.utf8 (JsonText.encodeAscii (.object
      [("customer_id", .string customerId), ("tenant_id", .string tenantId)])))))]

/-- `_normalize_gateway_result`: the fields of the envelope besides the scope are
those the tool returned, with the metadata of their freshness. -/
def normalizeGatewayResult (tenantId customerId : String) (envelope : JsonMembers) :
    JsonMembers :=
  gatewayScope tenantId customerId ++ envelope

/-- The dictionary an observation names its scope in. -/
def scopeMembers (observation : JsonMembers) : JsonMembers :=
  match observation.value "trusted_scope" with
  | .object members => members
  | _ => observation

/-- The observation names these ids and brings no scope hash. -/
structure NamesUnhashed (observation : JsonMembers) (tenantId customerId : String) : Prop where
  tenant : (scopeMembers observation).lookup "tenant_id" = some (.string tenantId)
  customer : (scopeMembers observation).lookup "customer_id" = some (.string customerId)
  unhashed : (scopeMembers observation).lookup "scope_hash" ∈ [none, some (.string "")]

/-- The read went well as far as the observation says. -/
structure ReadWell (observation : JsonMembers) : Prop where
  status : observation.lookup "status" = some (.string "ok")
  errorCode : (observation.value "error_code").truthy = false

/-- The three hashes of the scope are one, and no observation of the customer is
taken for another customer's. -/
structure ScopeHashesAgree (contracts : LedgerContracts) (tables : TextTables)
    (tenantId customerId : String) : Prop where
  written : ∀ observation envelope, NamesUnhashed observation tenantId customerId →
    (normalizeGatewayResult tenantId customerId envelope).lookup "scope_hash" = some (.string
      (observationScope contracts.toAssemblerContracts observation).2.2)
  stored : ∀ observation currentTurn recent request result,
    NamesUnhashed observation tenantId customerId →
    request.tenantId = tenantId → request.customerId = customerId →
    resolveActionAdmissionV2 tables currentTurn recent request = .ok result →
    result.scopeHash = (observationScope contracts.toAssemblerContracts observation).2.2
  recognised : ∀ observation obligation (admission : ActionAdmission),
    NamesUnhashed observation tenantId customerId → ReadWell observation →
    admittedScope admission = (tenantId, customerId, scopeHash tenantId customerId) →
    hardTerminalEntry contracts obligation admission observation = none

/-- The characters of both ids are ASCII, and none is the delete character. -/
def PlainIds (tenantId customerId : String) : Prop :=
  ∀ character ∈ tenantId.toList ++ customerId.toList, character.toNat < 0x7F

/-! ## The three texts -/

theorem sortKeys_scopePayload (tenantId customerId : String) :
    (scopePayload tenantId customerId).sortKeys = scopePayload tenantId customerId := by
  have ordered : "customer_id" ≤ "tenant_id" := by decide
  simp [scopePayload, Json.sortKeys, Json.sortMembers, Json.memberLe, ordered]

theorem encode_scopePayload (tenantId customerId : String) :
    JsonText.encode (scopePayload tenantId customerId) =
      '{' :: (JsonText.writeString "customer_id" ++ ':' ::
        (JsonText.writeString customerId ++ ',' ::
          (JsonText.writeString "tenant_id" ++ ':' :: JsonText.writeString tenantId)) ++
        ['}']) := by
  rw [JsonText.encode, sortKeys_scopePayload]
  rfl

theorem encodeAscii_scopePayload_eq_iff (tenantId customerId : String) :
    JsonText.encodeAscii (scopePayload tenantId customerId) =
        JsonText.encode (scopePayload tenantId customerId) ↔
      PlainIds tenantId customerId := by
  have opening : JsonText.Printable '{' := by decide
  have closing : JsonText.Printable '}' := by decide
  have colon : JsonText.Printable ':' := by decide
  have comma : JsonText.Printable ',' := by decide
  have customerKey : ∀ character ∈ "customer_id".toList, character.toNat < 0x7F := by simp
  have tenantKey : ∀ character ∈ "tenant_id".toList, character.toNat < 0x7F := by simp
  unfold JsonText.encodeAscii PlainIds
  rw [JsonText.flatMap_escapeAscii_eq_iff, encode_scopePayload]
  simp only [List.forall_mem_cons, List.forall_mem_append, List.not_mem_nil, false_implies,
    implies_true, and_true, JsonText.forall_writeString_printable_iff, opening, closing, colon,
    comma, true_and]
  constructor
  · intro written
    exact ⟨written.2.2.2, written.2.1⟩
  · intro printable
    exact ⟨customerKey, printable.2, tenantKey, printable.1⟩

/-- The two texts the scope is hashed from. -/
def scopeTexts (tenantId customerId : String) : List (List UInt8) :=
  [JsonText.utf8 (JsonText.encode (scopePayload tenantId customerId)),
    JsonText.utf8 (JsonText.encodeAscii (scopePayload tenantId customerId))]

theorem payloadDigest_eq_scopeHash_iff {tenantId customerId : String}
    (collisionFree : HashChain.CollisionFree Sha256.hexDigest
      (scopeTexts tenantId customerId)) :
    payloadDigest (scopePayload tenantId customerId) = scopeHash tenantId customerId ↔
      PlainIds tenantId customerId := by
  rw [← encodeAscii_scopePayload_eq_iff]
  constructor
  · intro same
    have texts := collisionFree _ List.mem_cons_self _
      (List.mem_cons_of_mem _ List.mem_cons_self) same
    exact (JsonText.utf8_injective texts).symm
  · intro texts
    change Sha256.hexDigest _ =
      Sha256.hexDigest (JsonText.utf8 (JsonText.encodeAscii (scopePayload tenantId customerId)))
    rw [texts]

/-- The gateway, the admission and the evidence decision write one text. -/
theorem gatewayScope_hash (tenantId customerId : String) (envelope : JsonMembers) :
    (normalizeGatewayResult tenantId customerId envelope).lookup "scope_hash" =
      some (.string (scopeHash tenantId customerId)) := rfl

/-- Whatever the resolution concludes, it stores the hash of the request's ids. -/
theorem resolveActionAdmissionV2_scopeHash {tables : TextTables} {currentTurn : List Char}
    {recent : List ConversationItem} {request : AdmissionRequest} {result : ActionAdmissionV2}
    (resolved : resolveActionAdmissionV2 tables currentTurn recent request = .ok result) :
    result.scopeHash = scopeHash request.tenantId request.customerId := by
  simp only [resolveActionAdmissionV2, bind_eq_ok_iff] at resolved
  rcases resolved with ⟨preceding, _, messages, _, resolved⟩
  split at resolved
  · cases resolved
    rfl
  · cases resolved
    rfl
  · cases resolved
    rfl
  · cases resolved
    rfl
  · split at resolved
    · cases resolved
      rfl
    split at resolved
    · cases resolved
      rfl
    rcases bind_eq_ok_iff.mp resolved with ⟨fields, _, resolved⟩
    cases fields <;> cases resolved <;> rfl

/-! ## The scope of an observation -/

section

variable (contracts : LedgerContracts)

def scopeText (observation : JsonMembers) (key : String) : String :=
  match (scopeMembers observation).lookup key with
  | some value => contracts.str value
  | none => ""

theorem observationScope_eq (observation : JsonMembers) :
    observationScope contracts.toAssemblerContracts observation =
      if scopeText contracts observation "scope_hash" = "" ∧
          scopeText contracts observation "tenant_id" ≠ "" ∧
          scopeText contracts observation "customer_id" ≠ "" then
        (scopeText contracts observation "tenant_id",
          scopeText contracts observation "customer_id",
          payloadDigest (scopePayload (scopeText contracts observation "tenant_id")
            (scopeText contracts observation "customer_id")))
      else (scopeText contracts observation "tenant_id",
        scopeText contracts observation "customer_id",
        scopeText contracts observation "scope_hash") := rfl

variable {contracts} {tenantId customerId : String}
  (strText : ∀ text, contracts.str (.string text) = text)

include strText

theorem scopeText_eq {observation : JsonMembers} {key text : String}
    (found : (scopeMembers observation).lookup key = some (.string text)) :
    scopeText contracts observation key = text := by
  rw [scopeText, found]
  exact strText text

/-- Without a hash of its own an observation is given that of its ids. -/
theorem observationScope_unhashed {observation : JsonMembers}
    (tenantPresent : tenantId ≠ "") (customerPresent : customerId ≠ "")
    (names : NamesUnhashed observation tenantId customerId) :
    observationScope contracts.toAssemblerContracts observation =
      (tenantId, customerId, payloadDigest (scopePayload tenantId customerId)) := by
  have unhashed : scopeText contracts observation "scope_hash" = "" := by
    rcases List.mem_cons.mp names.unhashed with absent | empty
    · rw [scopeText, absent]
    · exact scopeText_eq strText (List.mem_singleton.mp empty)
  rw [observationScope_eq, scopeText_eq strText names.tenant,
    scopeText_eq strText names.customer]
  exact if_pos ⟨unhashed, tenantPresent, customerPresent⟩

theorem hardTerminalEntry_readWell {observation : JsonMembers} (well : ReadWell observation)
    (obligation : EvidenceObligationSpec) {admission : ActionAdmission}
    (same : observationScope contracts.toAssemblerContracts observation =
      admittedScope admission) :
    hardTerminalEntry contracts obligation admission observation = none := by
  have status : textAt contracts observation "status" "invalid_result" = "ok" := by
    rw [textAt, well.status]
    exact strText "ok"
  have errorCode : strOrEmpty contracts (observation.value "error_code") = "" := by
    rw [strOrEmpty, well.errorCode]
    rfl
  unfold hardTerminalEntry
  rw [status, errorCode, same]
  rw [if_neg fun outside => outside.2 rfl]
  exact if_neg (by decide)

end

/-! ## When the hashes agree -/

/-- An observation that names its ids and nothing else. -/
def bareObservation (tenantId customerId : String) : JsonMembers :=
  [("tenant_id", .string tenantId), ("customer_id", .string customerId)]

theorem bareObservation_names (tenantId customerId : String) :
    NamesUnhashed (bareObservation tenantId customerId) tenantId customerId :=
  ⟨rfl, rfl, List.mem_cons_self⟩

/-- The hashes of a scope agree exactly when its ids are plain: a character beyond
ASCII, or the delete character, is escaped in one text and not in the other. -/
theorem scopeHashes_agree_iff (contracts : LedgerContracts) (tables : TextTables)
    (tenantId customerId : String) (tenantPresent : tenantId ≠ "")
    (customerPresent : customerId ≠ "")
    (strText : ∀ text, contracts.str (.string text) = text)
    (collisionFree : HashChain.CollisionFree Sha256.hexDigest (scopeTexts tenantId customerId)) :
    ScopeHashesAgree contracts tables tenantId customerId ↔ PlainIds tenantId customerId := by
  have scope := fun observation =>
    @observationScope_unhashed contracts tenantId customerId strText observation
      tenantPresent customerPresent
  rw [← payloadDigest_eq_scopeHash_iff collisionFree]
  constructor
  · intro agree
    have names := bareObservation_names tenantId customerId
    have written := agree.written _ [] names
    rw [gatewayScope_hash, scope _ names] at written
    exact (Json.string.inj (Option.some.inj written)).symm
  · intro same
    constructor
    · intro observation envelope names
      rw [gatewayScope_hash, scope _ names, same]
    · intro observation currentTurn recent request result names tenant customer resolved
      rw [resolveActionAdmissionV2_scopeHash resolved, tenant, customer, scope _ names, same]
    · intro observation obligation admission names well admitted
      apply hardTerminalEntry_readWell strText well
      rw [scope _ names, admitted, same]

def plainLedgerContracts : LedgerContracts :=
  { plainContracts with
    intOf := fun _ => none
    versionNumbers := fun _ => [] }

theorem scopeHashes_agree_plainIds :
    PlainIds "tenant" "customer" ∧
      (ScopeHashesAgree plainLedgerContracts plainTables "tenant" "customer" ↔
        PlainIds "tenant" "customer") := by
  have plain : PlainIds "tenant" "customer" := by simp [PlainIds]
  have texts := (encodeAscii_scopePayload_eq_iff "tenant" "customer").mpr plain
  apply And.intro plain
  apply scopeHashes_agree_iff _ _ _ _ (by decide) (by decide) fun _ => rfl
  unfold scopeTexts
  rw [texts]
  intro left leftMember right rightMember _
  simp only [List.mem_cons, List.not_mem_nil, or_false, or_self] at leftMember rightMember
  rw [leftMember, rightMember]

theorem foreignIds_digest :
    payloadDigest (scopePayload "租户" "customer") ≠ scopeHash "租户" "customer" := by
  decide +kernel

/-- The ids of a tenant in Chinese are hashed to two values. -/
theorem scopeHashes_not_agree :
    ¬ScopeHashesAgree plainLedgerContracts plainTables "租户" "customer" := by
  intro agree
  have names := bareObservation_names "租户" "customer"
  have written := agree.written _ [] names
  rw [gatewayScope_hash, observationScope_unhashed (fun _ => rfl) (by decide) (by decide) names]
    at written
  exact foreignIds_digest (Json.string.inj (Option.some.inj written)).symm

end SupportGuard
