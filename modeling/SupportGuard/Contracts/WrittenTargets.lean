import SupportGuard.Contracts.FieldOccurrences

/-! # One written target

Three patterns look for the target of an entitlement change. What one of them finds twice is
written twice, but two of them may find one number or one name, which counts as two targets
then. -/

namespace SupportGuard

open Foundation Fallible

/-- Where the patterns find the targets. -/
structure WrittenTargets where
  concurrency : List Occurrence
  rpm : List Occurrence
  plan : List Occurrence

namespace WrittenTargets

def all (written : WrittenTargets) : List Occurrence :=
  written.concurrency ++ written.rpm ++ written.plan

/-- Two targets are written, one apart from the other. -/
def Two (written : WrittenTargets) : Prop :=
  ∃ first ∈ written.all, ∃ second ∈ written.all, first.Apart second

/-- There is one written target, and several of the patterns find it once each. -/
structure ReadTwice (written : WrittenTargets) : Prop where
  concurrency : written.concurrency.length ≤ 1
  rpm : written.rpm.length ≤ 1
  plan : written.plan.length ≤ 1
  several : 2 ≤ written.all.length
  one : ∀ first ∈ written.all, ∀ second ∈ written.all, first.Overlaps second

/-- The places of each pattern stand apart. -/
structure Separate (written : WrittenTargets) : Prop where
  concurrency : written.concurrency.Pairwise Occurrence.Apart
  rpm : written.rpm.Pairwise Occurrence.Apart
  plan : written.plan.Pairwise Occurrence.Apart

theorem length_all (written : WrittenTargets) :
    written.all.length =
      written.concurrency.length + written.rpm.length + written.plan.length := by
  rw [all, List.length_append, List.length_append]

theorem ReadTwice.not_two {written : WrittenTargets} (twice : written.ReadTwice) :
    ¬written.Two := by
  intro two
  obtain ⟨first, among, second, alsoAmong, apart⟩ := two
  exact Occurrence.overlaps_iff.mp (twice.one first among second alsoAmong) apart

theorem exists_apart {places : List Occurrence} (separate : places.Pairwise Occurrence.Apart)
    (several : ¬places.length ≤ 1) : ∃ first ∈ places, ∃ second ∈ places, first.Apart second := by
  cases places with
  | nil => exact absurd (Nat.zero_le 1) several
  | cons first later =>
      cases later with
      | nil => exact absurd (Nat.le_refl 1) several
      | cons second rest =>
          have apart := (List.pairwise_cons.mp separate).1 second List.mem_cons_self
          exact ⟨first, List.mem_cons_self, second,
            List.mem_cons_of_mem _ List.mem_cons_self, apart⟩

/-- Where the patterns find something twice, two targets are written or one is read twice. -/
theorem two_of_several {written : WrittenTargets} (separate : written.Separate)
    (several : 2 ≤ written.all.length) (once : ¬written.ReadTwice) : written.Two := by
  by_cases concurrency : written.concurrency.length ≤ 1
  · by_cases rpm : written.rpm.length ≤ 1
    · by_cases plan : written.plan.length ≤ 1
      · by_cases one : ∀ first ∈ written.all, ∀ second ∈ written.all, first.Overlaps second
        · exact absurd ⟨concurrency, rpm, plan, several, one⟩ once
        · simp only [Occurrence.overlaps_iff, not_forall, not_not] at one
          obtain ⟨first, among, second, alsoAmong, apart⟩ := one
          exact ⟨first, among, second, alsoAmong, apart⟩
      · obtain ⟨first, among, second, alsoAmong, apart⟩ := exists_apart separate.plan plan
        exact ⟨first, List.mem_append_right _ among, second, List.mem_append_right _ alsoAmong,
          apart⟩
    · obtain ⟨first, among, second, alsoAmong, apart⟩ := exists_apart separate.rpm rpm
      exact ⟨first, List.mem_append_left _ (List.mem_append_right _ among), second,
        List.mem_append_left _ (List.mem_append_right _ alsoAmong), apart⟩
  · obtain ⟨first, among, second, alsoAmong, apart⟩ := exists_apart separate.concurrency concurrency
    exact ⟨first, List.mem_append_left _ (List.mem_append_left _ among), second,
      List.mem_append_left _ (List.mem_append_left _ alsoAmong), apart⟩

end WrittenTargets

section Written

variable (tables : TextTables)

/-- The text that targets may be read in. -/
def AdmissionReading.allowedSpans (reading : AdmissionReading) : AllowedSpans :=
  actionFieldSpans tables entitlementGrammar
    (reading.trustedContinuation = some .entitlementChange &&
      searches tables AdmissionPattern.entitlementDomain reading.context) reading.messages

def writtenTargets (allowed : AllowedSpans) (messages : List AcceptedMessage) :
    WrittenTargets where
  concurrency :=
    occurrences tables AdmissionPattern.concurrencyTarget [1] (some allowed) messages
  rpm := occurrences tables AdmissionPattern.rpmTarget [1, 2] (some allowed) messages
  plan := occurrences tables AdmissionPattern.planTarget [1, 2] (some allowed) messages

def AdmissionReading.written (reading : AdmissionReading) : WrittenTargets :=
  writtenTargets tables (reading.allowedSpans tables) reading.messages

end Written

open AdmissionPattern in
def writtenRead : Evaluated @AdmissionReading.written :=
  ⟨_, by
    delta AdmissionReading.written writtenTargets AdmissionReading.allowedSpans actionFieldSpans
      explicitActionRequested positiveActionClauseSpans positiveSpans positiveSpans._f
      positiveClause clauseSpans entitlementGrammar
    rw [actionRequestCueRead.same, actionClauseBoundaryRead.same, entitlementDomainRead.same,
      entitlementChangeRead.same, entitlementChangeNegatedRead.same, actionInformationalRead.same,
      actionCoordinatedContinuationRead.same, concurrencyTargetRead.same, rpmTargetRead.same,
      planTargetRead.same]⟩

section Targets

variable {tables : TextTables}

theorem written_separate (reading : AdmissionReading) : (reading.written tables).Separate := by
  have windows : WindowsApart (some (reading.allowedSpans tables)) :=
    windowsApart_actionFieldSpans _ _ _
  constructor
  · exact occurrences_pairwise (readsField_of_readsNumber concurrencyTarget_readsNumber) windows _
  · exact occurrences_pairwise (readsField_of_readsNumber rpmTarget_readsNumber) windows _
  · exact occurrences_pairwise planTarget_readsField windows _

theorem length_firstByKey_le {Entry Key : Type} [DecidableEq Key] (key : Entry → Key) :
    ∀ entries : List Entry, (firstByKey key entries).length ≤ entries.length
  | [] => Nat.le_refl _
  | entry :: later => by
      have shorter := length_firstByKey_le key later
      have kept := List.length_filter_le (fun other => decide (key other ≠ key entry))
        (firstByKey key later)
      rw [firstByKey, List.length_cons, List.length_cons]
      omega

theorem two_le_length_firstByKey {Entry Key : Type} [DecidableEq Key] (key : Entry → Key)
    {entries : List Entry} {first second : Entry} (among : first ∈ entries)
    (alsoAmong : second ∈ entries) (differ : key first ≠ key second) :
    2 ≤ (firstByKey key entries).length := by
  obtain ⟨kept, member, same⟩ := exists_mem_firstByKey key among
  obtain ⟨other, otherMember, otherSame⟩ := exists_mem_firstByKey key alsoAmong
  rw [← same, ← otherSame] at differ
  cases values : firstByKey key entries with
  | nil =>
      rw [values] at member
      cases member
  | cons head tail =>
      cases tail with
      | nil =>
          rw [values] at member otherMember
          rw [List.mem_singleton.mp member, List.mem_singleton.mp otherMember] at differ
          exact absurd rfl differ
      | cons _ _ =>
          rw [List.length_cons, List.length_cons]
          omega

/-- The targets of one pattern: no more than its places, and one if there is a place. -/
structure TargetsAt (places : List Occurrence)
    (targets : List (EntitlementTarget × AdmissionFieldSource)) : Prop where
  length_le : targets.length ≤ places.length
  some : places ≠ [] → targets ≠ []

variable {messages : List AcceptedMessage}

theorem uniqueMatches_targetsAt {fieldName : String} {regex : Regex} {groups : List Nat}
    {allowed : Option AllowedSpans} {found : List FieldMatch} (normalize : Bool)
    (matched : fieldMatches tables fieldName regex groups allowed messages = .ok found) :
    (uniqueMatches tables normalize found).length ≤
        (occurrences tables regex groups allowed messages).length ∧
      (occurrences tables regex groups allowed messages ≠ [] →
        uniqueMatches tables normalize found ≠ []) := by
  have pairs := fieldMatches_forall₂ matched
  generalize occurrences tables regex groups allowed messages = places at pairs ⊢
  constructor
  · rw [← pairs.length_eq]
    exact length_firstByKey_le _ _
  · intro filled
    cases pairs with
    | nil => exact absurd rfl filled
    | cons _ _ => exact List.cons_ne_nil _ _

theorem numericTargets_targetsAt {make : Int → EntitlementTarget} {fieldName : String}
    {regex : Regex} {groups : List Nat} {allowed : Option AllowedSpans} {found : List FieldMatch}
    {targets : List (EntitlementTarget × AdmissionFieldSource)}
    (matched : fieldMatches tables fieldName regex groups allowed messages = .ok found)
    (read : numericTargets make (uniqueMatches tables false found) = .ok targets) :
    TargetsAt (occurrences tables regex groups allowed messages) targets ∧
      ∀ target ∈ targets, ∃ value, target.1 = make value := by
  have pairs := mapM_forall₂ read
  obtain ⟨short, some⟩ := uniqueMatches_targetsAt false matched
  constructor
  · constructor
    · rw [← pairs.length_eq]
      exact short
    · intro places none
      rw [none, List.forall₂_nil_right_iff] at pairs
      exact some places pairs
  · intro target member
    obtain ⟨entry, _, computed⟩ := mem_of_mapM read member
    simp only [bind_eq_ok_iff] at computed
    obtain ⟨value, _, target_eq⟩ := computed
    cases target_eq
    exact ⟨value, rfl⟩

theorem WrittenTargets.ReadTwice.kinds {written : WrittenTargets} (twice : written.ReadTwice) :
    written.concurrency ≠ [] ∧ written.rpm ≠ [] ∨ written.concurrency ≠ [] ∧ written.plan ≠ [] ∨
      written.rpm ≠ [] ∧ written.plan ≠ [] := by
  have several := twice.several
  have first := twice.concurrency
  have second := twice.rpm
  have third := twice.plan
  rw [written.length_all] at several
  simp only [← List.length_pos_iff]
  omega

/-- The targets are no more than the places, and two if a written target is read twice. -/
theorem entitlementTargets_length {allowed : AllowedSpans}
    {targets : List (EntitlementTarget × AdmissionFieldSource)}
    (read : entitlementTargets tables allowed messages = .ok targets) :
    targets.length ≤ (writtenTargets tables allowed messages).all.length ∧
      ((writtenTargets tables allowed messages).ReadTwice → 2 ≤ targets.length) := by
  simp only [entitlementTargets, bind_eq_ok_iff] at read
  obtain ⟨concurrency, concurrencyFound, concurrencyLimits, concurrencyRead, rpm, rpmFound,
    rpmLimits, rpmRead, plans, plansFound, targets_eq⟩ := read
  cases targets_eq
  obtain ⟨concurrencyAt, limits⟩ := numericTargets_targetsAt concurrencyFound concurrencyRead
  obtain ⟨rpmAt, rates⟩ := numericTargets_targetsAt rpmFound rpmRead
  obtain ⟨planShort, planSome⟩ := uniqueMatches_targetsAt true plansFound
  constructor
  · apply Nat.le_trans (length_firstByKey_le _ _)
    rw [WrittenTargets.length_all, List.length_append, List.length_append, List.length_map]
    exact Nat.add_le_add (Nat.add_le_add concurrencyAt.length_le rpmAt.length_le) planShort
  · intro twice
    rcases twice.kinds with ⟨one, other⟩ | ⟨one, other⟩ | ⟨one, other⟩
    · obtain ⟨first, among⟩ := List.exists_mem_of_ne_nil _ (concurrencyAt.some one)
      obtain ⟨second, alsoAmong⟩ := List.exists_mem_of_ne_nil _ (rpmAt.some other)
      apply two_le_length_firstByKey _
        (List.mem_append_left _ (List.mem_append_left _ among))
        (List.mem_append_left _ (List.mem_append_right _ alsoAmong))
      obtain ⟨value, first_eq⟩ := limits first among
      obtain ⟨rate, second_eq⟩ := rates second alsoAmong
      rw [first_eq, second_eq]
      simp
    · obtain ⟨first, among⟩ := List.exists_mem_of_ne_nil _ (concurrencyAt.some one)
      obtain ⟨second, alsoAmong⟩ := List.exists_mem_of_ne_nil _ (planSome other)
      apply two_le_length_firstByKey _
        (List.mem_append_left _ (List.mem_append_left _ among))
        (List.mem_append_right _ (List.mem_map_of_mem alsoAmong))
      obtain ⟨value, first_eq⟩ := limits first among
      rw [first_eq]
      simp
    · obtain ⟨first, among⟩ := List.exists_mem_of_ne_nil _ (rpmAt.some one)
      obtain ⟨second, alsoAmong⟩ := List.exists_mem_of_ne_nil _ (planSome other)
      apply two_le_length_firstByKey _
        (List.mem_append_left _ (List.mem_append_right _ among))
        (List.mem_append_right _ (List.mem_map_of_mem alsoAmong))
      obtain ⟨rate, first_eq⟩ := rates first among
      rw [first_eq]
      simp

/-! ## Ambiguous targets -/

/-- The fields do not name several targets. -/
def FieldResolution.Unambiguous : FieldResolution → Prop
  | .mismatch reason _ => reason ≠ .targetAmbiguous
  | _ => True

variable {fields : FieldResolution}

theorem refundFields_unambiguous (extracted : refundFields tables messages = .ok fields) :
    fields.Unambiguous := by
  simp only [refundFields, bind_eq_ok_iff] at extracted
  obtain ⟨found, _, extracted⟩ := extracted
  split at extracted
  · cases extracted
    trivial
  · cases extracted
    trivial
  · rw [bind_eq_ok_iff] at extracted
    obtain ⟨target, _, extracted⟩ := extracted
    cases target with
    | none =>
        cases extracted
        exact nofun
    | some target =>
        cases extracted
        trivial

theorem apiKeyFields_unambiguous {domainContext : Bool}
    (extracted : apiKeyFields tables domainContext messages = .ok fields) :
    fields.Unambiguous := by
  simp only [apiKeyFields, bind_eq_ok_iff] at extracted
  obtain ⟨found, _, extracted⟩ := extracted
  split at extracted
  · cases extracted
    trivial
  · cases extracted
    trivial
  · cases extracted
    exact nofun

theorem entitlementFields_unambiguous_iff {requestedConcurrencyLimit : Option Int}
    {domainContext : Bool}
    (extracted : entitlementFields tables requestedConcurrencyLimit domainContext messages =
      .ok fields) :
    ∃ targets, entitlementTargets tables
        (actionFieldSpans tables entitlementGrammar domainContext messages) messages =
          .ok targets ∧
      (fields.Unambiguous ↔ ¬2 ≤ targets.length) := by
  simp only [entitlementFields, bind_eq_ok_iff] at extracted
  obtain ⟨targets, read, extracted⟩ := extracted
  apply Exists.intro targets
  apply And.intro read
  split at extracted
  · cases extracted
    exact ⟨fun _ => by decide, fun _ => trivial⟩
  · split at extracted
    · cases extracted
      exact ⟨fun _ => Nat.not_succ_le_self 1, fun _ => nofun⟩
    · cases extracted
      exact ⟨fun _ => Nat.not_succ_le_self 1, fun _ => trivial⟩
  · next several other =>
    cases extracted
    constructor
    · exact fun differs => absurd rfl differs
    · intro few
      cases targets with
      | nil => exact absurd rfl several
      | cons first later =>
          cases later with
          | nil => exact absurd rfl (other first.1 first.2)
          | cons _ _ =>
              rw [List.length_cons, List.length_cons] at few
              omega

theorem Concludes.targetAmbiguous_iff {result : ActionAdmissionV2} {action : ActionType}
    (concludes : Concludes result action fields) :
    result.reasonCode = .targetAmbiguous ↔ ¬fields.Unambiguous := by
  cases fields with
  | missing field =>
      rw [concludes.2.1]
      exact ⟨nofun, fun known => absurd trivial known⟩
  | resolved arguments source =>
      rw [concludes.2.1]
      exact ⟨nofun, fun known => absurd trivial known⟩
  | mismatch reason question =>
      rw [concludes.2.1]
      exact not_not.symm

/-- Where two targets are found in the request, two are written, if and only if the customer
does not ask for a change with one written target that is read twice. -/
theorem targetAmbiguous_two_iff {currentTurn : List Char} {recent : List ConversationItem}
    {request : AdmissionRequest} {reading : AdmissionReading} {result : ActionAdmissionV2}
    (read : admissionReading tables currentTurn recent request = .ok reading)
    (resolved : resolveActionAdmissionV2 tables currentTurn recent request = .ok result) :
    (result.reasonCode = .targetAmbiguous → (reading.written tables).Two) ↔
      ¬(Asks tables currentTurn request reading .entitlementChange ∧
        (reading.written tables).ReadTwice) := by
  rcases resolveActionAdmissionV2_concludes read resolved with concluded | refused
  · obtain ⟨action, fields, asks, extracted, concludes⟩ := concluded
    rw [concludes.targetAmbiguous_iff]
    cases action with
    | refund =>
        have known := refundFields_unambiguous extracted
        constructor
        · intro _ both
          cases asks.planned.symm.trans both.1.planned
        · exact fun _ several => absurd known several
    | apiKeyRevocation =>
        have known := apiKeyFields_unambiguous extracted
        constructor
        · intro _ both
          cases asks.planned.symm.trans both.1.planned
        · exact fun _ several => absurd known several
    | entitlementChange =>
        obtain ⟨targets, targeted, known⟩ := entitlementFields_unambiguous_iff extracted
        obtain ⟨short, long⟩ := entitlementTargets_length targeted
        rw [known, not_not]
        constructor
        · intro written both
          exact both.2.not_two (written (long both.2))
        · intro once several
          exact WrittenTargets.two_of_several (written_separate reading)
            (Nat.le_trans several short) fun twice => once ⟨asks, twice⟩
  · constructor
    · exact fun _ both => refused.1 _ both.1
    · exact fun _ ambiguous => absurd ambiguous refused.2.targets

end Targets

/-- Where two targets are found, two are written. -/
def AmbiguousOfTwo (tables : TextTables) : Prop :=
  ∀ currentTurn recent request reading result,
    admissionReading tables currentTurn recent request = .ok reading →
    resolveActionAdmissionV2 tables currentTurn recent request = .ok result →
    result.reasonCode = .targetAmbiguous → (reading.written tables).Two

/-! ## A limit that two patterns find -/

def rateRequest : AdmissionRequest where
  requestedAction := some .entitlementChange
  issueType := some "entitlement_change"
  tenantId := "tenant"
  customerId := "customer"
  currentMessageId := ['m', '2']
  turnGroupId := "turn"

def rateTurn : List Char :=
  "请把 rpm 配额调整到 500".toList

theorem rateTurn_ambiguous :
    (resolveActionAdmissionV2 plainTables rateTurn [] rateRequest).toOption.any
      (fun result => result.reasonCode = .targetAmbiguous) = true := by
  rw [admissionRead.same]
  decide +kernel

theorem rateTurn_reading :
    (admissionReading plainTables rateTurn [] rateRequest).toOption.any
      (fun reading => ∀ first ∈ (reading.written plainTables).all,
        ∀ second ∈ (reading.written plainTables).all, first.Overlaps second) = true := by
  rw [readingRead.same, writtenRead.same]
  decide +kernel

def twoLimits : List Char :=
  "请把 rpm 调整到 500，并发调整到 20".toList

theorem twoLimits_ambiguous :
    (resolveActionAdmissionV2 plainTables twoLimits [] rateRequest).toOption.any
      (fun result => result.reasonCode = .targetAmbiguous) = true := by
  rw [admissionRead.same]
  decide +kernel

theorem twoLimits_reading :
    (admissionReading plainTables twoLimits [] rateRequest).toOption.any
      (fun reading => ¬∀ first ∈ (reading.written plainTables).all,
        ∀ second ∈ (reading.written plainTables).all, first.Overlaps second) = true := by
  rw [readingRead.same, writtenRead.same]
  decide +kernel

theorem targetAmbiguous_two_twoLimits :
    ∃ reading result,
      admissionReading plainTables twoLimits [] rateRequest = .ok reading ∧
      resolveActionAdmissionV2 plainTables twoLimits [] rateRequest = .ok result ∧
      result.reasonCode = .targetAmbiguous ∧ (reading.written plainTables).Two := by
  obtain ⟨result, resolved, ambiguous⟩ := ok_of_any twoLimits_ambiguous
  obtain ⟨reading, read, apart⟩ := ok_of_any twoLimits_reading
  have several : result.reasonCode = .targetAmbiguous := of_decide_eq_true ambiguous
  have two := (targetAmbiguous_two_iff read resolved).mpr
    (fun both => of_decide_eq_true apart both.2.one) several
  exact ⟨reading, result, read, resolved, several, two⟩

/-- One limit of requests is two targets. -/
theorem ambiguous_not_of_two : ¬AmbiguousOfTwo plainTables := by
  intro ofTwo
  obtain ⟨result, resolved, ambiguous⟩ := ok_of_any rateTurn_ambiguous
  obtain ⟨reading, read, overlaps⟩ := ok_of_any rateTurn_reading
  obtain ⟨first, among, second, alsoAmong, apart⟩ :=
    ofTwo rateTurn [] rateRequest reading result read resolved (of_decide_eq_true ambiguous)
  have both := of_decide_eq_true overlaps first among second alsoAmong
  exact Occurrence.overlaps_iff.mp both apart

end SupportGuard
