import SupportGuard.Contracts.AdmissionTotality
import SupportGuard.Foundation.RegexContext

/-! # The clauses that supply a field

The field of a key revocation or of an entitlement change is read in a clause that neither
negates the action nor asks about it, or in a whole message that does neither. The patterns
look at nothing around them, so no clause of such a message does either; but the field may go
over the end of a clause. -/

namespace SupportGuard

open Foundation Fallible

section Clauses

variable (tables : TextTables)

/-- The text neither negates the action nor asks about it. -/
def neutralText (grammar : ActionGrammar) (text : List Char) : Bool :=
  !searches tables grammar.negatedAction text &&
    !searches tables AdmissionPattern.actionInformational text

def clauseText (content : List Char) (clause : Span) : List Char :=
  textSlice content clause.1 clause.2

/-- The span lies inside one clause, which is neutral. -/
def InNeutralClause (grammar : ActionGrammar) (content : List Char) (span : Span) : Prop :=
  ∃ clause ∈ clauseSpans tables content, clause.1 ≤ span.1 ∧ span.2 ≤ clause.2 ∧
    neutralText tables grammar (clauseText content clause) = true

/-- Where two clauses meet, inside the span. -/
def CutByBoundary (content : List Char) (span : Span) : Prop :=
  ∃ boundary ∈ AdmissionPattern.actionClauseBoundary.finditer tables.isWord content 0
      content.length, boundary.start < span.2 ∧ span.1 < boundary.stop

/-- The message is neutral as a whole and in each of its clauses. -/
structure NeutralMessage (grammar : ActionGrammar) (content : List Char) : Prop where
  whole : neutralText tables grammar content = true
  clauses : ∀ clause ∈ clauseSpans tables content,
    neutralText tables grammar (clauseText content clause) = true

/-- The span is inside a neutral clause, or two clauses of a neutral message meet in it. -/
def SuppliedNeutrally (grammar : ActionGrammar) (content : List Char) (span : Span) : Prop :=
  InNeutralClause tables grammar content span ∨
    NeutralMessage tables grammar content ∧ CutByBoundary tables content span

end Clauses

section Supplied

variable {tables : TextTables} {grammar : ActionGrammar} {content : List Char} {span : Span}

/-! ## Cutting at the boundaries -/

theorem clauseSpans_bounds {clause : Span} (member : clause ∈ clauseSpans tables content) :
    clause.1 < clause.2 ∧ clause.1 ≤ content.length := by
  rw [clauseSpans, List.mem_filter, decide_eq_true_eq] at member
  apply And.intro member.2
  have start := (List.of_mem_zip member.1).1
  rcases List.mem_cons.mp start with zero | after
  · omega
  · obtain ⟨boundary, among, stop_eq⟩ := List.mem_map.mp after
    have bound := (Regex.finditer_of among).stop_le
    rw [List.length_take] at bound
    omega

/-- What no boundary cuts is between two of them. The induction is on the boundaries, from the
end of the last one that stands before the span. -/
theorem exists_between {boundaries : List RegexMatch} {length : Nat} (within : span.2 ≤ length) :
    ∀ {low : Nat}, low ≤ span.1 →
      (∀ boundary ∈ boundaries, boundary.stop ≤ span.1 ∨ span.2 ≤ boundary.start) →
        ∃ clause ∈ (low :: boundaries.map (·.stop)).zip (boundaries.map (·.start) ++ [length]),
          clause.1 ≤ span.1 ∧ span.2 ≤ clause.2 := by
  induction boundaries with
  | nil => exact fun below _ => ⟨_, List.mem_cons_self, below, within⟩
  | cons boundary later induction =>
      intro low below apart
      rcases apart boundary List.mem_cons_self with before | after
      · obtain ⟨clause, among, inside⟩ :=
          induction before fun other member => apart other (List.mem_cons_of_mem _ member)
        exact ⟨clause, List.mem_cons_of_mem _ among, inside⟩
      · exact ⟨_, List.mem_cons_self, below, after⟩

theorem exists_clause (filled : span.1 < span.2) (within : span.2 ≤ content.length)
    (uncut : ¬CutByBoundary tables content span) :
    ∃ clause ∈ clauseSpans tables content, clause.1 ≤ span.1 ∧ span.2 ≤ clause.2 := by
  have apart : ∀ boundary ∈ AdmissionPattern.actionClauseBoundary.finditer tables.isWord content 0
      content.length, boundary.stop ≤ span.1 ∨ span.2 ≤ boundary.start := by
    intro boundary member
    by_cases before : boundary.stop ≤ span.1
    · exact .inl before
    · right
      by_cases after : span.2 ≤ boundary.start
      · exact after
      · exact absurd ⟨boundary, member, by omega, by omega⟩ uncut
  obtain ⟨clause, among, low, high⟩ := exists_between within (Nat.zero_le _) apart
  apply Exists.intro clause
  constructor
  · rw [clauseSpans, List.mem_filter, decide_eq_true_eq]
    exact ⟨among, by omega⟩
  · exact ⟨low, high⟩

/-! ## Neutral messages -/

/-- The patterns of the grammar that rule a clause out look at nothing around them. -/
def ActionGrammar.Plain (grammar : ActionGrammar) : Prop :=
  grammar.negatedAction.isPlain = true

open AdmissionPattern in
theorem patterns_plain : (keyRevocationNegated.isPlain && entitlementChangeNegated.isPlain &&
    actionInformational.isPlain) = true := by
  rw [keyRevocationNegatedRead.same, entitlementChangeNegatedRead.same,
    actionInformationalRead.same]
  decide +kernel

theorem keyGrammar_plain : keyGrammar.Plain := by
  have plain := patterns_plain
  simp only [Bool.and_eq_true] at plain
  simp only [ActionGrammar.Plain, keyGrammar]
  exact plain.1.1

theorem entitlementGrammar_plain : entitlementGrammar.Plain := by
  have plain := patterns_plain
  simp only [Bool.and_eq_true] at plain
  simp only [ActionGrammar.Plain, entitlementGrammar]
  exact plain.1.2

theorem actionInformational_plain : AdmissionPattern.actionInformational.isPlain = true := by
  have plain := patterns_plain
  simp only [Bool.and_eq_true] at plain
  exact plain.2

/-- A clause of a neutral message is neutral. -/
theorem neutralText_clause (plain : grammar.Plain) {clause : Span}
    (within : clause.1 ≤ content.length) (neutral : neutralText tables grammar content = true) :
    neutralText tables grammar (clauseText content clause) = true := by
  simp only [neutralText, Bool.and_eq_true, Bool.not_eq_true', searches] at neutral ⊢
  constructor
  · apply Bool.eq_false_iff.mpr
    intro found
    rw [Regex.found_of_textSlice plain within found] at neutral
    exact absurd neutral.1 (by decide)
  · apply Bool.eq_false_iff.mpr
    intro found
    rw [Regex.found_of_textSlice actionInformational_plain within found] at neutral
    exact absurd neutral.2 (by decide)

theorem neutralMessage_of_whole (plain : grammar.Plain)
    (neutral : neutralText tables grammar content = true) :
    NeutralMessage tables grammar content where
  whole := neutral
  clauses _ member := neutralText_clause plain (clauseSpans_bounds member).2 neutral

/-! ## The windows of a field -/

/-- A window of the message that fields may be read in. -/
def IsWindow (tables : TextTables) (grammar : ActionGrammar) (content : List Char)
    (window : Span) : Prop :=
  window ∈ clauseSpans tables content ∧
      neutralText tables grammar (clauseText content window) = true ∨
    window = (0, content.length) ∧ neutralText tables grammar content = true

theorem IsWindow.bounds {window : Span} (isWindow : IsWindow tables grammar content window) :
    window.1 ≤ window.2 ∧ window.1 ≤ content.length := by
  rcases isWindow with clause | whole
  · obtain ⟨filled, within⟩ := clauseSpans_bounds clause.1
    exact ⟨Nat.le_of_lt filled, within⟩
  · rw [whole.1]
    exact ⟨Nat.zero_le _, Nat.zero_le _⟩

theorem IsWindow.supplies (plain : grammar.Plain) {window : Span}
    (isWindow : IsWindow tables grammar content window) (low : window.1 ≤ span.1)
    (high : span.2 ≤ window.2) (filled : span.1 < span.2) (within : span.2 ≤ content.length) :
    SuppliedNeutrally tables grammar content span := by
  rcases isWindow with ⟨clause, neutral⟩ | ⟨_, neutral⟩
  · exact .inl ⟨window, clause, low, high, neutral⟩
  · by_cases cut : CutByBoundary tables content span
    · exact .inr ⟨neutralMessage_of_whole plain neutral, cut⟩
    · obtain ⟨clause, member, inside⟩ := exists_clause filled within cut
      exact .inl ⟨clause, member, inside.1, inside.2,
        neutralText_clause plain (clauseSpans_bounds member).2 neutral⟩

/-- The spans that are kept for a message are those of a message with its identity. -/
theorem spansOf_eq_nil_or (grammar : ActionGrammar) (domainContext : Bool)
    (messages : List AcceptedMessage) (message : AcceptedMessage) :
    spansOf (some (actionFieldSpans tables grammar domainContext messages)) message = [] ∨
      ∃ other ∈ messages, actionFieldSpans tables grammar domainContext [other] =
        [(message.messageId,
          spansOf (some (actionFieldSpans tables grammar domainContext messages)) message)] := by
  rw [spansOf]
  cases looked : (actionFieldSpans tables grammar domainContext messages).reverse.lookup
      message.messageId with
  | none => exact .inl rfl
  | some spans =>
      right
      obtain ⟨before, after, entries_eq, _⟩ := List.lookup_eq_some_iff.mp looked
      have entry : (message.messageId, spans) ∈
          actionFieldSpans tables grammar domainContext messages := by
        rw [← List.mem_reverse, entries_eq]
        exact List.mem_append_right _ List.mem_cons_self
      rw [actionFieldSpans] at entry
      obtain ⟨other, member, entry_eq⟩ := List.mem_map.mp entry
      exact ⟨other, member, congrArg (· :: []) entry_eq⟩

variable {messages : List AcceptedMessage} {domainContext : Bool}

/-- The spans that are kept for a message are its own, where no two messages have one
identity. -/
theorem spansOf_actionFieldSpans (distinct : (messages.map AcceptedMessage.messageId).Nodup)
    {message : AcceptedMessage} (member : message ∈ messages) {window : Span}
    (allowed : window ∈ spansOf (some (actionFieldSpans tables grammar domainContext messages))
      message) :
    IsWindow tables grammar message.content window := by
  rcases spansOf_eq_nil_or grammar domainContext messages message with none | kept
  · rw [none] at allowed
    cases allowed
  · obtain ⟨other, otherMember, entry_eq⟩ := kept
    have pair := (List.cons.inj entry_eq).1
    have same : other = message :=
      List.inj_on_of_nodup_map distinct otherMember member (congrArg Prod.fst pair)
    rw [same] at pair
    have spans_eq := congrArg Prod.snd pair
    dsimp only at spans_eq
    rw [← spans_eq] at allowed
    split at allowed
    · rw [List.mem_filter] at allowed
      exact .inl allowed
    · split at allowed
      · next neutral => exact .inr ⟨List.mem_singleton.mp allowed, neutral⟩
      · cases allowed

/-- The source names a message, and its span was read in a window of the message. -/
def ReadNeutrally (tables : TextTables) (grammar : ActionGrammar)
    (messages : List AcceptedMessage) (source : AdmissionFieldSource) : Prop :=
  ∃ message ∈ messages, source.messageId = message.messageId ∧
    source.contentHash = message.contentHash ∧
    SuppliedNeutrally tables grammar message.content (source.spanStart, source.spanEnd)

theorem fieldMatches_readNeutrally (plain : grammar.Plain)
    (distinct : (messages.map AcceptedMessage.messageId).Nodup) {fieldName : String} {regex : Regex}
    {groups : List Nat} (reads : regex.readsField groups = true) {found : List FieldMatch}
    (matched : fieldMatches tables fieldName regex groups
      (some (actionFieldSpans tables grammar domainContext messages)) messages = .ok found) :
    ∀ entry ∈ found, ReadNeutrally tables grammar messages entry.2 := by
  simp only [fieldMatches, bind_eq_ok_iff] at matched
  obtain ⟨all, mapped, found_eq⟩ := matched
  cases found_eq
  intro entry member
  obtain ⟨entries, among, inside⟩ := List.mem_flatten.mp member
  obtain ⟨message, messageMember, mappedMessage⟩ := mem_of_mapM mapped among
  obtain ⟨place, there, matchedPlace⟩ := mem_of_mapM mappedMessage inside
  obtain ⟨window, allowed, searched⟩ := List.mem_flatMap.mp there
  have isWindow := spansOf_actionFieldSpans distinct messageMember allowed
  have matchedOf := Regex.finditer_of searched
  obtain ⟨span, chosen, filled, short, _⟩ := Regex.span_of_readsField reads matchedOf
  rw [fieldMatch, chosen] at matchedPlace
  simp only [bind_eq_ok_iff] at matchedPlace
  obtain ⟨source, made, entry_eq⟩ := matchedPlace
  cases entry_eq
  obtain ⟨identity, hash, start, stop⟩ := fieldSource_eq_ok made
  apply Exists.intro message
  apply And.intro messageMember
  apply And.intro identity
  apply And.intro hash
  rw [start, stop]
  obtain ⟨ordered, within⟩ := isWindow.bounds
  have low := Regex.finditer_start_le ordered within searched
  obtain ⟨after, before⟩ := matchedOf.span_within chosen
  rw [List.length_take] at short
  exact isWindow.supplies plain (by omega) (by dsimp only; omega) filled (by dsimp only; omega)

/-- Whatever is resolved was read neutrally. -/
def FieldResolution.ReadNeutrally (tables : TextTables) (grammar : ActionGrammar)
    (messages : List AcceptedMessage) : FieldResolution → Prop
  | .resolved _ source => SupportGuard.ReadNeutrally tables grammar messages source
  | .missing _ => True
  | .mismatch _ _ => True

theorem apiKeyFields_readNeutrally (distinct : (messages.map AcceptedMessage.messageId).Nodup)
    {fields : FieldResolution}
    (resolved : apiKeyFields tables domainContext messages = .ok fields) :
    fields.ReadNeutrally tables keyGrammar messages := by
  simp only [apiKeyFields, bind_eq_ok_iff] at resolved
  obtain ⟨found, matched, resolved⟩ := resolved
  have neutral :=
    fieldMatches_readNeutrally keyGrammar_plain distinct apiKeyRef_readsField matched
  split at resolved
  · cases resolved
    trivial
  · next reference unique =>
    cases resolved
    apply neutral reference
    apply mem_of_mem_uniqueMatches tables true
    rw [unique]
    exact List.mem_cons_self
  · cases resolved
    trivial

theorem numericTargets_source {make : Int → EntitlementTarget} {found : List FieldMatch}
    {targets : List (EntitlementTarget × AdmissionFieldSource)}
    (read : numericTargets make (uniqueMatches tables false found) = .ok targets) :
    ∀ target ∈ targets, ∃ entry ∈ found, entry.2 = target.2 := by
  intro target member
  obtain ⟨entry, among, readEntry⟩ := mem_of_mapM read member
  simp only [bind_eq_ok_iff] at readEntry
  obtain ⟨value, _, target_eq⟩ := readEntry
  cases target_eq
  exact ⟨entry, mem_of_mem_uniqueMatches tables false among, rfl⟩

theorem entitlementTargets_readNeutrally (distinct : (messages.map AcceptedMessage.messageId).Nodup)
    {targets : List (EntitlementTarget × AdmissionFieldSource)}
    (resolved : entitlementTargets tables
      (actionFieldSpans tables entitlementGrammar domainContext messages) messages = .ok targets) :
    ∀ target ∈ targets, ReadNeutrally tables entitlementGrammar messages target.2 := by
  simp only [entitlementTargets, bind_eq_ok_iff] at resolved
  obtain ⟨concurrency, concurrencyFound, concurrencyLimits, concurrencyRead, rpm, rpmFound,
    rpmLimits, rpmRead, plans, plansFound, targets_eq⟩ := resolved
  cases targets_eq
  intro target member
  rw [List.append_assoc] at member
  rcases List.mem_append.mp (mem_of_mem_firstByKey member) with first | later
  · obtain ⟨entry, among, source_eq⟩ := numericTargets_source concurrencyRead target first
    rw [← source_eq]
    exact fieldMatches_readNeutrally entitlementGrammar_plain distinct
      (readsField_of_readsNumber concurrencyTarget_readsNumber) concurrencyFound entry among
  rcases List.mem_append.mp later with second | third
  · obtain ⟨entry, among, source_eq⟩ := numericTargets_source rpmRead target second
    rw [← source_eq]
    exact fieldMatches_readNeutrally entitlementGrammar_plain distinct
      (readsField_of_readsNumber rpmTarget_readsNumber) rpmFound entry among
  · obtain ⟨entry, among, target_eq⟩ := List.mem_map.mp third
    cases target_eq
    exact fieldMatches_readNeutrally entitlementGrammar_plain distinct planTarget_readsField
      plansFound entry (mem_of_mem_uniqueMatches tables true among)

theorem entitlementFields_readNeutrally {requestedConcurrencyLimit : Option Int}
    (distinct : (messages.map AcceptedMessage.messageId).Nodup) {fields : FieldResolution}
    (resolved : entitlementFields tables requestedConcurrencyLimit domainContext messages =
      .ok fields) :
    fields.ReadNeutrally tables entitlementGrammar messages := by
  simp only [entitlementFields, bind_eq_ok_iff] at resolved
  obtain ⟨targets, targeted, resolved⟩ := resolved
  have neutral := entitlementTargets_readNeutrally distinct targeted
  split at resolved
  · cases resolved
    trivial
  · next target source =>
    split at resolved
    · cases resolved
      trivial
    · cases resolved
      exact neutral (target, source) List.mem_cons_self
  · cases resolved
    trivial

/-! ## The admission -/

/-- The grammar of an action that is read clause by clause. -/
def clauseGrammar : ActionType → Option ActionGrammar
  | .refund => none
  | .apiKeyRevocation => some keyGrammar
  | .entitlementChange => some entitlementGrammar

variable {request : AdmissionRequest}

theorem actionFields_readNeutrally {trustedContinuation : Option ActionType} {context : List Char}
    (distinct : (messages.map AcceptedMessage.messageId).Nodup) {parsed : ActionType}
    (byClause : clauseGrammar parsed = some grammar) {fields : FieldResolution}
    (resolved : actionFields tables request trustedContinuation context messages parsed =
      .ok fields) :
    fields.ReadNeutrally tables grammar messages := by
  cases parsed with
  | refund => cases byClause
  | apiKeyRevocation =>
      have same : keyGrammar = grammar := Option.some.inj byClause
      rw [← same]
      exact apiKeyFields_readNeutrally distinct resolved
  | entitlementChange =>
      have same : entitlementGrammar = grammar := Option.some.inj byClause
      rw [← same]
      exact entitlementFields_readNeutrally distinct resolved

theorem acceptItem_ne {currentMessageId : List Char} {index : Nat} {item : ConversationItem}
    {message : AcceptedMessage}
    (taken : acceptItem tables currentMessageId index item = .ok (some message)) :
    message.messageId ≠ currentMessageId := by
  simp only [acceptItem, bind_eq_ok_iff] at taken
  obtain ⟨customer, _, taken⟩ := taken
  split at taken
  · cases taken
  · next kept =>
    cases taken
    exact fun same => kept (.inr (.inr same))

theorem acceptItems_ne {currentMessageId : List Char} {items : List ConversationItem} :
    ∀ {index : Nat} {accepted : List AcceptedMessage},
      acceptItems tables currentMessageId index items = .ok accepted →
        ∀ message ∈ accepted, message.messageId ≠ currentMessageId := by
  induction items with
  | nil =>
      intro index accepted read
      cases read
      exact fun message member => absurd member List.not_mem_nil
  | cons item later induction =>
      intro index accepted read message member
      simp only [acceptItems, bind_eq_ok_iff] at read
      obtain ⟨first, taken, rest, laterRead, accepted_eq⟩ := read
      cases accepted_eq
      rcases List.mem_append.mp member with here | after
      · rw [Option.mem_toList] at here
        rw [here] at taken
        exact acceptItem_ne taken
      · exact induction laterRead message after

/-- The messages of the customer have distinct identities. -/
def DistinctMessages (tables : TextTables) (recent : List ConversationItem)
    (currentMessageId : List Char) : Prop :=
  ∀ accepted, acceptItems tables currentMessageId 0 recent = .ok accepted →
    (accepted.map AcceptedMessage.messageId).Nodup

theorem consideredMessages_sublist {preceding messages : List AcceptedMessage}
    {current : AcceptedMessage} {currentIntents : List ActionType}
    (considered : consideredMessages tables request preceding current currentIntents =
      .ok messages) :
    messages.Sublist (preceding ++ [current]) := by
  simp only [consideredMessages, bind_eq_ok_iff] at considered
  obtain ⟨found, _, considered⟩ := considered
  split at considered
  · cases considered
    exact (List.drop_sublist _ _).append (List.Sublist.refl _)
  · split at considered
    · cases considered
      exact List.sublist_append_right _ _
    · cases considered
      exact List.Sublist.refl _

theorem considered_distinct {recent : List ConversationItem} {currentTurn : List Char}
    {preceding messages : List AcceptedMessage} {currentIntents : List ActionType}
    (distinct : DistinctMessages tables recent request.currentMessageId)
    (read : precedingMessages tables request.currentMessageId recent = .ok preceding)
    (considered : consideredMessages tables request preceding
      (currentMessage currentTurn request.currentMessageId) currentIntents = .ok messages) :
    (messages.map AcceptedMessage.messageId).Nodup := by
  simp only [precedingMessages, bind_eq_ok_iff] at read
  obtain ⟨accepted, acceptedRead, preceding_eq⟩ := read
  cases preceding_eq
  apply List.Nodup.sublist ((consideredMessages_sublist considered).map _)
  rw [List.map_append, List.nodup_append]
  have last : (accepted.drop (accepted.length - 5)).Sublist accepted := List.drop_sublist _ _
  apply And.intro ((distinct accepted acceptedRead).sublist (last.map _))
  apply And.intro (List.nodup_singleton _)
  intro identity among other otherAmong
  obtain ⟨message, member, identity_eq⟩ := List.mem_map.mp among
  rw [List.mem_singleton.mp otherAmong, ← identity_eq]
  exact acceptItems_ne acceptedRead message (last.subset member)

theorem resolveActionAdmissionV2_readNeutrally {currentTurn : List Char}
    {recent : List ConversationItem} {result : ActionAdmissionV2}
    (distinct : DistinctMessages tables recent request.currentMessageId)
    (resolved : resolveActionAdmissionV2 tables currentTurn recent request = .ok result)
    (admitted : result.status = .admitted) {action : ActionType}
    (acts : result.actionType = some action) (byClause : clauseGrammar action = some grammar) :
    ∃ messages, (∀ message ∈ messages,
        message = currentMessage currentTurn request.currentMessageId ∨
          Precedes tables request.currentMessageId recent message) ∧
      ∀ source ∈ result.fieldSources, ReadNeutrally tables grammar messages source := by
  simp only [resolveActionAdmissionV2, bind_eq_ok_iff] at resolved
  obtain ⟨preceding, read, messages, considered, resolved⟩ := resolved
  have among : ∀ message ∈ messages,
      message = currentMessage currentTurn request.currentMessageId ∨
        Precedes tables request.currentMessageId recent message := by
    intro message member
    rcases consideredMessages_subset considered message member with before | last
    · exact .inr (precedingMessages_precede read message before)
    · exact .inl last
  have apart := considered_distinct distinct read considered
  apply Exists.intro messages
  apply And.intro among
  split at resolved
  · cases resolved
    cases admitted
  · cases resolved
    cases admitted
  · cases resolved
    cases admitted
  · cases resolved
    cases admitted
  · next parsed requested _ _ =>
    split at resolved
    · cases resolved
      cases admitted
    split at resolved
    · cases resolved
      cases admitted
    rw [bind_eq_ok_iff] at resolved
    obtain ⟨fields, extracted, resolved⟩ := resolved
    cases fields with
    | missing field =>
        cases resolved
        cases admitted
    | mismatch reason question =>
        cases resolved
        cases admitted
    | resolved arguments source =>
        cases resolved
        have same : parsed = action := Option.some.inj acts
        rw [← same] at byClause
        exact List.forall_mem_singleton.mpr (actionFields_readNeutrally apart byClause extracted)

end Supplied

/-- The fields of every admitted action that is read clause by clause stand in messages of the
customer, in spans that are so. -/
def SuppliesFields (tables : TextTables)
    (supplied : ActionGrammar → List Char → Span → Prop) : Prop :=
  ∀ currentTurn recent request result,
    DistinctMessages tables recent request.currentMessageId →
    resolveActionAdmissionV2 tables currentTurn recent request = .ok result →
    result.status = .admitted →
    ∀ action grammar, result.actionType = some action → clauseGrammar action = some grammar →
      ∀ source ∈ result.fieldSources, ∃ message,
        (message = currentMessage currentTurn request.currentMessageId ∨
          Precedes tables request.currentMessageId recent message) ∧
        source.messageId = message.messageId ∧ source.contentHash = message.contentHash ∧
        supplied grammar message.content (source.spanStart, source.spanEnd)

theorem fields_suppliedNeutrally (tables : TextTables) :
    SuppliesFields tables (SuppliedNeutrally tables) := by
  intro currentTurn recent request result distinct resolved admitted action grammar acts byClause
  obtain ⟨messages, among, neutral⟩ :=
    resolveActionAdmissionV2_readNeutrally distinct resolved admitted acts byClause
  intro source member
  obtain ⟨message, messageMember, identity, hash, supplied⟩ := neutral source member
  exact ⟨message, among message messageMember, identity, hash, supplied⟩

/-! ## A reference with a clause boundary in it -/

def keyRequest : AdmissionRequest where
  requestedAction := some .apiKeyRevocation
  issueType := some "credential_security"
  tenantId := "tenant"
  customerId := "customer"
  currentMessageId := ['m', '2']
  turnGroupId := "turn"
  continuationAction := some .apiKeyRevocation

/-- The customer has asked before, and now names the key. -/
def keyConversation : List ConversationItem :=
  [[("role", .string "customer"), ("content", .string "请撤销密钥"), ("message_id", .string "m1")]]

def namedKey : List Char :=
  ['k', 'e', 'y', '-', 't', 'h', 'e', 'n', '-', '1']

/-- Not the first key, the customer says, but the second one. -/
def secondKey : List Char :=
  "不要撤销 key_01，请撤销密钥 key_02".toList

/-- The reference is read at this place of the current message. -/
def readsKeyAt (place : Span) (result : ActionAdmissionV2) : Bool :=
  result.status = .admitted && result.actionType = some .apiKeyRevocation &&
    result.fieldSources.map (fun source => (source.messageId, source.spanStart, source.spanEnd)) =
      [(['m', '2'], place)]

theorem namedKey_admitted :
    (resolveActionAdmissionV2 plainTables namedKey keyConversation keyRequest).toOption.any
      (readsKeyAt (0, 10)) = true := by
  rw [admissionRead.same]
  decide +kernel

theorem secondKey_admitted :
    (resolveActionAdmissionV2 plainTables secondKey keyConversation keyRequest).toOption.any
      (readsKeyAt (18, 24)) = true := by
  rw [admissionRead.same]
  decide +kernel

theorem keyConversation_distinct : DistinctMessages plainTables keyConversation ['m', '2'] := by
  intro accepted read
  have few : ((acceptItems plainTables ['m', '2'] 0 keyConversation).toOption.map
      List.length) = some 1 := rfl
  rw [read] at few
  have one : accepted.length = 1 := Option.some.inj few
  obtain ⟨only, only_eq⟩ := List.length_eq_one_iff.mp one
  rw [only_eq]
  exact List.nodup_singleton _

/-- The reference is read at this place, which a neutral clause supplies or a neutral message. -/
def SuppliesKeyAt (turn : List Char) (place : Span) : Prop :=
  ∃ result, resolveActionAdmissionV2 plainTables turn keyConversation keyRequest = .ok result ∧
    readsKeyAt place result = true ∧
    ∀ source ∈ result.fieldSources, ∃ message : AcceptedMessage,
      source.messageId = message.messageId ∧
        SuppliedNeutrally plainTables keyGrammar message.content (source.spanStart, source.spanEnd)

theorem fields_suppliedNeutrally_keys :
    SuppliesKeyAt secondKey (18, 24) ∧ SuppliesKeyAt namedKey (0, 10) := by
  have each : ∀ turn place, (resolveActionAdmissionV2 plainTables turn keyConversation
      keyRequest).toOption.any (readsKeyAt place) = true → SuppliesKeyAt turn place := by
    intro turn place admits
    obtain ⟨result, resolved, reads⟩ := ok_of_any admits
    have holds := reads
    simp only [readsKeyAt, Bool.and_eq_true, decide_eq_true_eq] at holds
    apply Exists.intro result
    apply And.intro resolved
    apply And.intro reads
    intro source member
    obtain ⟨message, _, identity, _, supplied⟩ :=
      fields_suppliedNeutrally plainTables turn keyConversation keyRequest result
        keyConversation_distinct resolved holds.1.1 _ _ holds.1.2 rfl source member
    exact ⟨message, identity, supplied⟩
  exact ⟨each _ _ secondKey_admitted, each _ _ namedKey_admitted⟩

/-- What precedes in the conversation is the first message. -/
theorem precedes_keyConversation {message : AcceptedMessage}
    (before : Precedes plainTables ['m', '2'] keyConversation message) :
    message.messageId ≠ ['m', '2'] := by
  obtain ⟨index, item, _, there, _, identity, _⟩ := before.sent
  have first : index = 0 := by
    have bound := (List.getElem?_eq_some_iff.mp there).1
    have one : keyConversation.length = 1 := rfl
    omega
  rw [first] at there identity
  rw [identity, ← Option.some.inj there]
  decide

open AdmissionPattern in
theorem namedKey_clauses : clauseSpans plainTables namedKey = [(0, 4), (8, 10)] := by
  rw [clauseSpans, actionClauseBoundaryRead.same]
  decide +kernel

/-- A key may be named with a word that ends a clause. -/
theorem fields_go_over_clauses :
    ¬SuppliesFields plainTables (InNeutralClause plainTables) := by
  intro supplies
  obtain ⟨result, resolved, reads⟩ := ok_of_any namedKey_admitted
  simp only [readsKeyAt, Bool.and_eq_true, decide_eq_true_eq] at reads
  obtain ⟨⟨admitted, acts⟩, sources⟩ := reads
  obtain ⟨source, source_eq, place⟩ := List.map_eq_singleton_iff.mp sources
  have member : source ∈ result.fieldSources := by
    rw [source_eq]
    exact List.mem_cons_self
  obtain ⟨message, heard, identity, _, clause, among, low, high, _⟩ :=
    supplies namedKey keyConversation keyRequest result keyConversation_distinct resolved admitted
      _ _ acts rfl source member
  simp only [Prod.mk.injEq] at place
  obtain ⟨named, start, stop⟩ := place
  have current : message.content = namedKey := by
    rcases heard with last | before
    · rw [last]
      rfl
    · exact absurd (identity.symm.trans named) (precedes_keyConversation before)
  rw [current, namedKey_clauses] at among
  simp only [List.mem_cons, List.not_mem_nil, or_false] at among
  rcases among with first | second
  · rw [first] at high
    dsimp only at high
    omega
  · rw [second] at low
    dsimp only at low
    omega

end SupportGuard
