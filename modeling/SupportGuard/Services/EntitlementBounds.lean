import SupportGuard.Services.EffectOnce

/-! # Limits within the plan

Whether the limits of a subscription stay within the bounds of its plan when a change of its
entitlement is carried out. -/

namespace SupportGuard

open Foundation Program

/-! ## The bounds of a plan -/

namespace Database

/-- The catalog of a plan that is in force. -/
def latestCatalog? (database : Database) (plan : String) : Option PlanCatalog :=
  Table.latest? PlanCatalog.version (database.planCatalog.filter fun catalog => catalog.plan = plan)

def planAllows (database : Database) (plan : String) (rpmLimit concurrencyLimit : Int) : Bool :=
  (database.latestCatalog? plan).any fun catalog =>
    decide (catalog.minRpm ≤ rpmLimit ∧ rpmLimit ≤ catalog.maxRpm) &&
      decide (catalog.minConcurrency ≤ concurrencyLimit ∧ concurrencyLimit ≤ catalog.maxConcurrency)

def withinPlan (database : Database) (subscription : Subscription) : Bool :=
  database.planAllows subscription.plan subscription.rpmLimit subscription.concurrencyLimit

/-- The quota is changed, or the plan is changed to one that allows the limits which will be
in force: those of the target, and where it has none those of the subscription. -/
def AllowsChange (database : Database) (subscription : Subscription)
    (payload : List (String × Json)) : Prop :=
  (memberOr payload "change_type" (.string "")).toStr = "quota_change" ∨
    ∃ target rpmLimit concurrencyLimit,
      dictOf (memberOr payload "target" (.object [])) = .ok target ∧
        limitOr target "rpm_limit" subscription.rpmLimit = .ok rpmLimit ∧
          limitOr target "concurrency_limit" subscription.concurrencyLimit =
              .ok concurrencyLimit ∧
            database.planAllows (member target "plan").toStr rpmLimit concurrencyLimit

end Database

/-! ## The targets that pass -/

variable {database : Database} {subscription : Subscription} {target : List (String × Json)}
  {rpmLimit concurrencyLimit : Int}

theorem lookup_of_onlyKey {key other : String} (single : onlyKey target key)
    (differs : other ≠ key) : target.lookup other = none := by
  apply List.lookup_eq_none_iff.mpr
  intro member present
  have named := List.all_eq_true.mp (Bool.and_eq_true_iff.mp single).2 member present
  simpa [of_decide_eq_true named] using differs

theorem limitOr_of_lookup {key : String} {current limit : Int}
    (absent : target.lookup key = none) (read : limitOr target key current = .ok limit) :
    limit = current := by
  rw [limitOr, absent] at read
  exact (Except.ok.inj read).symm

theorem limitOr_of_limitWithin {key : String} {minimum maximum current limit : Int}
    (within : limitWithin minimum maximum (member target key) = .ok true)
    (read : limitOr target key current = .ok limit) : minimum ≤ limit ∧ limit ≤ maximum := by
  rw [limitWithin] at within
  rw [limitOr] at read
  cases found : target.lookup key with
  | none =>
      rw [member, memberOr, found] at within
      cases within
  | some value =>
      rw [member, memberOr, found, Option.getD_some] at within
      rw [found] at read
      dsimp only at read
      rw [read] at within
      simpa [Except.map] using within

/-- A quota that the catalog allows leaves the plan and the other limit as they are. -/
theorem planAllows_of_quotaAllowed (within : database.withinPlan subscription)
    (allowed : quotaAllowed (database.latestCatalog? subscription.plan) target = .ok true)
    (rpm : limitOr target "rpm_limit" subscription.rpmLimit = .ok rpmLimit)
    (concurrency : limitOr target "concurrency_limit" subscription.concurrencyLimit =
      .ok concurrencyLimit) :
    target.lookup "plan" = none ∧
      database.planAllows subscription.plan rpmLimit concurrencyLimit := by
  rw [Database.withinPlan, Database.planAllows] at within
  rw [Database.planAllows]
  cases found : database.latestCatalog? subscription.plan with
  | none =>
      rw [found] at within
      cases within
  | some catalog =>
      rw [found] at within allowed
      rw [Option.any_some, Bool.and_eq_true, decide_eq_true_iff, decide_eq_true_iff] at within
      rw [Option.any_some, Bool.and_eq_true, decide_eq_true_iff, decide_eq_true_iff]
      rw [quotaAllowed] at allowed
      split_ifs at allowed with onlyRpm onlyConcurrency
      · have kept := limitOr_of_lookup (lookup_of_onlyKey onlyRpm (by decide)) concurrency
        rw [kept]
        exact ⟨lookup_of_onlyKey onlyRpm (by decide), limitOr_of_limitWithin allowed rpm, within.2⟩
      · have kept := limitOr_of_lookup (lookup_of_onlyKey onlyConcurrency (by decide)) rpm
        rw [kept]
        exact ⟨lookup_of_onlyKey onlyConcurrency (by decide), within.1,
          limitOr_of_limitWithin allowed concurrency⟩
      · cases allowed

/-- A plan that is named is the plan of the target. -/
theorem lookup_plan_of_named (named : (memberOr target "plan" (.string "")).toStr ≠ "") :
    ((target.lookup "plan").map Json.toStr).getD subscription.plan =
      (member target "plan").toStr := by
  rw [member, memberOr]
  cases found : target.lookup "plan" with
  | none =>
      rw [memberOr, found] at named
      exact absurd rfl named
  | some plan => rfl

/-- What is checked of a change that is not out of date. -/
theorem entitlementStale?_eq_none {changeType : String}
    (current : entitlementStale? database subscription changeType target = .ok none) :
    (changeType = "quota_change" ∧
        quotaAllowed (database.latestCatalog? subscription.plan) target = .ok true) ∨
      changeType ≠ "quota_change" ∧ (memberOr target "plan" (.string "")).toStr ≠ "" := by
  rw [entitlementStale?] at current
  split_ifs at current with quota plan
  · rcases Fallible.bind_eq_ok_iff.mp current with ⟨allowed, isAllowed, verdict⟩
    cases allowed with
    | true => exact .inl ⟨quota, isAllowed⟩
    | false => cases verdict
  · right
    dsimp only at current
    split_ifs at current with refused
    · cases current
    · exact ⟨quota, fun empty => refused (.inl empty)⟩
  · cases current

/-! ## The subscription afterwards -/

variable {redactPii : PyText → PyText} {draws : ExecutionDraws} {approval : ApprovalRequest}
  {revision : ApprovalActionRevision} {resourceId : String} {result : ActionResult}
  {before after : Database}

theorem markStale_status {reason : String}
    (returned : (markStale redactPii draws approval resourceId reason).Returns before result
      after) : result.status = "stale" := by
  rcases returns_bind.mp returned with ⟨_, _, _, rest⟩
  rcases returns_bind.mp rest with ⟨_, _, _, rest⟩
  rcases returns_bind.mp rest with ⟨_, _, _, rest⟩
  rcases returns_bind.mp rest with ⟨_, _, _, last⟩
  rw [(returns_pure.mp last).1]

/-- The entitlement is the only thing that a commit changes beside the actions. -/
theorem commitEffect_entitled {action : BusinessAction} {plan : String}
    (returned : (commitEffect (markEntitled subscription plan rpmLimit concurrencyLimit)
      action).Returns before result after) :
    after.planCatalog = before.planCatalog ∧
      after.subscriptions =
        (markEntitled subscription plan rpmLimit concurrencyLimit before).subscriptions := by
  rcases returns_bind.mp returned with ⟨_, changed, changes, rest⟩
  rcases returns_bind.mp rest with ⟨_, inserted, inserts, last⟩
  rw [(returns_pure.mp last).2, (insertAction_returns inserts).2.2, returns_modify.mp changes]
  exact ⟨rfl, rfl⟩

theorem planAllows_congr (same : after.planCatalog = before.planCatalog) :
    after.planAllows = before.planAllows := by
  funext plan rpmLimit concurrencyLimit
  rw [Database.planAllows, Database.planAllows, Database.latestCatalog?, Database.latestCatalog?,
    same]

theorem subscriptionOf?_markEntitled {tenantId customerId plan : String}
    (found : before.subscriptionOf? tenantId customerId resourceId = some subscription)
    (entitled : after.subscriptions =
      (markEntitled subscription plan rpmLimit concurrencyLimit before).subscriptions) :
    after.subscriptionOf? tenantId customerId resourceId =
      some { subscription with
        plan, rpmLimit, concurrencyLimit, version := subscription.version + 1 } := by
  rw [Database.subscriptionOf?] at found ⊢
  rw [entitled, markEntitled]
  dsimp only
  rw [Table.find?_update, found, Option.map_some, if_pos rfl]
  intro row
  rfl

/-- A change that succeeds leaves the limits within the bounds of the plan just when it is a
change of the quota or the new plan allows the limits that are in force then. -/
theorem changeEntitlement_withinPlan_iff
    (found : before.subscriptionOf? approval.tenantId approval.customerId resourceId =
      some subscription)
    (within : before.withinPlan subscription)
    (returned : (changeEntitlement redactPii draws approval revision resourceId).Returns before
      result after)
    (succeeded : result.status = "succeeded") :
    ∃ changed,
      after.subscriptionOf? approval.tenantId approval.customerId resourceId = some changed ∧
        (after.withinPlan changed ↔ before.AllowsChange subscription revision.actionPayload) := by
  have notStale : ∀ {reason : String},
      ¬(markStale redactPii draws approval resourceId reason).Returns before result after := by
    intro reason stale
    rw [markStale_status stale] at succeeded
    exact absurd succeeded (by decide)
  unfold changeEntitlement at returned
  rw [returns_readsId_bind, found] at returned
  split at returned
  · exact absurd returned notStale
  · rename_i current isCurrent
    rcases Option.filter_eq_some_iff.mp isCurrent with ⟨same, _⟩
    cases Option.some.inj same
    dsimp only at returned
    rcases returns_ofExcept_bind.mp returned with ⟨target, isTarget, rest⟩
    rcases returns_ofExcept_bind.mp rest with ⟨stale, isStale, rest⟩
    cases stale with
    | some reason => exact absurd rest notStale
    | none =>
        rcases returns_ofExcept_bind.mp rest with ⟨rpmLimit, rpm, rest⟩
        rcases returns_ofExcept_bind.mp rest with ⟨concurrencyLimit, concurrency, rest⟩
        rcases returns_ofExcept_bind.mp rest with ⟨action, _, commits⟩
        rcases commitEffect_entitled commits with ⟨sameCatalog, entitled⟩
        refine ⟨_, subscriptionOf?_markEntitled found entitled, ?_⟩
        rw [Database.withinPlan, planAllows_congr sameCatalog]
        dsimp only
        rcases entitlementStale?_eq_none isStale with ⟨quota, allowed⟩ | ⟨notQuota, named⟩
        · rcases planAllows_of_quotaAllowed within allowed rpm concurrency with ⟨samePlan, kept⟩
          rw [samePlan, Option.map_none, Option.getD_none]
          exact iff_of_true kept (.inl quota)
        · rw [lookup_plan_of_named named]
          constructor
          · intro allows
            exact .inr ⟨target, rpmLimit, concurrencyLimit, isTarget, rpm, concurrency, allows⟩
          · intro allows
            rcases allows with quota | ⟨sameTarget, _, _, isSame, sameRpm, sameConcurrency, allows⟩
            · exact absurd quota notQuota
            · cases Except.ok.inj (isTarget.symm.trans isSame)
              cases Except.ok.inj (rpm.symm.trans sameRpm)
              cases Except.ok.inj (concurrency.symm.trans sameConcurrency)
              exact allows

/-- A subscription to the larger of two plans, with the limits that plan allows. -/
def proSubscription : Subscription where
  id := "subscription"
  tenantId := "acme"
  customerId := "customer"
  plan := "pro"
  rpmLimit := 600
  concurrencyLimit := 20
  version := 1

def twoPlans : Database where
  subscriptions := [proSubscription]
  planCatalog :=
    [{ id := "catalog-1", plan := "basic", minRpm := 10, maxRpm := 60, minConcurrency := 1,
       maxConcurrency := 5, version := 1 },
      { id := "catalog-2", plan := "pro", minRpm := 60, maxRpm := 1000, minConcurrency := 5,
        maxConcurrency := 50, version := 1 }]

def approvedChange : ApprovalRequest where
  id := "approval"
  tenantId := "acme"
  ticketId := "ticket"
  customerId := "customer"
  runId := "run"
  proposalId := "proposal"
  actionType := "entitlement_change"
  resourceType := "subscription_id"
  resourceId := "subscription"
  actionPayload := .null
  businessVersion := 1
  idempotencyKey := "request"
  status := .approved

/-- An approved target as its revision. -/
def changeTo (changeType : String) (target : List (String × Json)) : ApprovalActionRevision where
  id := "revision"
  tenantId := "acme"
  approvalId := "approval"
  proposalId := "proposal"
  snapshotId := "snapshot"
  revisionNumber := 1
  actionPayload := [("change_type", .string changeType), ("target", .object target)]
  actionHash := "hash"
  resourceVersion := 1
  createdByRef := "approver"
  revisionReason := "initial"

/-- The change where both plans are offered. -/
def entitlementChange (changeType : String) (target : List (String × Json)) :
    Program Database RuntimeRaise ActionResult :=
  changeEntitlement (fun text => text) (revocationDraws "action" "event") approvedChange
    (changeTo changeType target) "subscription"

def succeedsWithin (within : Bool) (result : ActionResult) (after : Database) : Bool :=
  decide (result.status = "succeeded") &&
    (after.subscriptionOf? "acme" "customer" "subscription").any fun changed =>
      after.withinPlan changed == within

theorem entitlementChange_larger :
    ((entitlementChange "quota_change" [("rpm_limit", .integer 800)]
        twoPlans).1.toOption.any fun result => succeedsWithin true result
        (entitlementChange "quota_change" [("rpm_limit", .integer 800)] twoPlans).2) = true := by
  decide +kernel

theorem entitlementChange_smallerPlan :
    ((entitlementChange "plan_change" [("plan", .string "basic")]
        twoPlans).1.toOption.any fun result => succeedsWithin false result
        (entitlementChange "plan_change" [("plan", .string "basic")] twoPlans).2) = true := by
  decide +kernel

/-- A larger quota that the plan allows. -/
theorem changeEntitlement_withinPlan_larger :
    ∃ result after changed,
      (entitlementChange "quota_change" [("rpm_limit", .integer 800)]).Returns twoPlans result
          after ∧
        after.subscriptionOf? "acme" "customer" "subscription" = some changed ∧
          after.withinPlan changed := by
  rcases @returns_of_check _ _ _ (entitlementChange "quota_change"
    [("rpm_limit", .integer 800)]) twoPlans (succeedsWithin true) entitlementChange_larger
    with ⟨result, after, returned, checked⟩
  have succeeded := of_decide_eq_true (Bool.and_eq_true_iff.mp checked).1
  have found : twoPlans.subscriptionOf? approvedChange.tenantId approvedChange.customerId
      "subscription" = some proSubscription := by decide
  rcases @changeEntitlement_withinPlan_iff _ _ _ _ _ _ _ _ _ found (by decide) returned succeeded
    with ⟨changed, isChanged, within⟩
  exact ⟨result, after, changed, returned, isChanged, within.mpr (.inl (by decide))⟩

/-- A change to the smaller plan keeps limits that this plan does not allow. -/
theorem changeEntitlement_exceedsPlan :
    twoPlans.subscriptionOf? "acme" "customer" "subscription" = some proSubscription ∧
      twoPlans.withinPlan proSubscription ∧
        ∃ result after,
          (entitlementChange "plan_change" [("plan", .string "basic")]).Returns twoPlans result
            after ∧
          succeedsWithin false result after := by
  have returned := @returns_of_check _ _ _ (entitlementChange "plan_change"
    [("plan", .string "basic")]) twoPlans (succeedsWithin false) entitlementChange_smallerPlan
  exact ⟨by decide, by decide, returned⟩

end SupportGuard
