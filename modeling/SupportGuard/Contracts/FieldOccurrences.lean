import SupportGuard.Contracts.ClauseSources

/-! # Where the fields of an action stand

A pattern reads a field at its occurrences in the messages, in order. The occurrences of one
pattern do not overlap: the clauses stand one behind the other, and so do the matches in a
clause. -/

namespace SupportGuard

open Foundation Fallible

/-- A field in one of the messages. -/
structure Occurrence where
  index : Nat
  message : AcceptedMessage
  span : Span
deriving DecidableEq

namespace Occurrence

def text (occurrence : Occurrence) : List Char :=
  textSlice occurrence.message.content occurrence.span.1 occurrence.span.2

/-- They stand in different messages, or one behind the other. -/
def Apart (first second : Occurrence) : Prop :=
  first.index ≠ second.index ∨ first.span.2 ≤ second.span.1 ∨ second.span.2 ≤ first.span.1

/-- They have a character in common, where they have any. -/
def Overlaps (first second : Occurrence) : Prop :=
  first.index = second.index ∧ first.span.1 < second.span.2 ∧ second.span.1 < first.span.2

instance (first second : Occurrence) : Decidable (first.Apart second) :=
  inferInstanceAs (Decidable (_ ∨ _))

instance (first second : Occurrence) : Decidable (first.Overlaps second) :=
  inferInstanceAs (Decidable (_ ∧ _))

theorem overlaps_iff {first second : Occurrence} :
    first.Overlaps second ↔ ¬first.Apart second := by
  rw [Overlaps, Apart]
  omega

end Occurrence

section Occurrences

variable (tables : TextTables)

/-- The fields of the matches in a message. -/
def placed (groups : List Nat) (message : AcceptedMessage) (index : Nat)
    (places : List RegexMatch) : List Occurrence :=
  places.filterMap fun found =>
    (groups.findSome? found.span).map fun span => { index, message, span }

def occurrencesIn (regex : Regex) (groups : List Nat) (allowed : Option AllowedSpans)
    (message : AcceptedMessage) (index : Nat) : List Occurrence :=
  placed groups message index ((spansOf allowed message).flatMap fun window =>
    regex.finditer tables.isWord message.content window.1 window.2)

def occurrences (regex : Regex) (groups : List Nat) (allowed : Option AllowedSpans)
    (messages : List AcceptedMessage) : List Occurrence :=
  messages.zipIdx.flatMap fun entry => occurrencesIn tables regex groups allowed entry.1 entry.2

end Occurrences

/-- The field is read where it occurs. -/
structure ReadAt (entry : FieldMatch) (occurrence : Occurrence) : Prop where
  text : entry.1 = occurrence.text
  messageId : entry.2.messageId = occurrence.message.messageId
  contentHash : entry.2.contentHash = occurrence.message.contentHash
  span : (entry.2.spanStart, entry.2.spanEnd) = occurrence.span

section Reading

variable {tables : TextTables} {regex : Regex} {groups : List Nat}

theorem fieldMatch_readAt {fieldName : String} {message : AcceptedMessage} {found : RegexMatch}
    {entry : FieldMatch} (matched : fieldMatch fieldName groups message found = .ok entry)
    (index : Nat) :
    ∃ span, groups.findSome? found.span = some span ∧
      ReadAt entry { index, message, span } := by
  rw [fieldMatch] at matched
  split at matched
  · cases matched
  · next span chosen =>
    simp only [bind_eq_ok_iff] at matched
    obtain ⟨source, made, entry_eq⟩ := matched
    cases entry_eq
    obtain ⟨identity, hash, start, stop⟩ := fieldSource_eq_ok made
    exact ⟨span, chosen, rfl, identity, hash, by rw [start, stop]⟩

theorem placed_forall₂ {Result : Type} {fieldName : String} {message : AcceptedMessage}
    {compute : RegexMatch → Except AdmissionError Result} {field : Result → FieldMatch}
    (each : ∀ found result, compute found = .ok result →
      fieldMatch fieldName groups message found = .ok (field result))
    {places : List RegexMatch} {results : List Result} (mapped : places.mapM compute = .ok results)
    (index : Nat) :
    List.Forall₂ (fun result => ReadAt (field result)) results
      (placed groups message index places) := by
  have pairs := mapM_forall₂ mapped
  clear mapped
  induction pairs with
  | nil => exact .nil
  | cons computed _ induction =>
      obtain ⟨span, chosen, readAt⟩ := fieldMatch_readAt (each _ _ computed) index
      rw [placed, List.filterMap_cons, chosen]
      exact .cons readAt induction

variable {allowed : Option AllowedSpans}

/-- What is found is read at the occurrences, one by one. -/
theorem fieldMatches_forall₂ {fieldName : String} {messages : List AcceptedMessage}
    {found : List FieldMatch}
    (matched : fieldMatches tables fieldName regex groups allowed messages = .ok found) :
    List.Forall₂ ReadAt found (occurrences tables regex groups allowed messages) := by
  simp only [fieldMatches, bind_eq_ok_iff] at matched
  obtain ⟨all, mapped, found_eq⟩ := matched
  cases found_eq
  have pairs := mapM_forall₂ mapped
  rw [← List.zipIdx_map_fst 0 messages, List.forall₂_map_left_iff] at pairs
  rw [occurrences, List.flatMap]
  apply List.rel_flatten
  rw [List.forall₂_map_right_iff]
  apply pairs.flip.imp
  intro entries entry read
  exact placed_forall₂ (fun _ _ computed => computed) read entry.2

/-! ## One pattern -/

theorem zip_pairwise {boundaries : List RegexMatch} {length : Nat}
    (ordered : ∀ boundary ∈ boundaries, boundary.start ≤ boundary.stop)
    (apart : boundaries.Pairwise fun first second => first.stop ≤ second.start) :
    ∀ low : Nat, ((low :: boundaries.map (·.stop)).zip
      (boundaries.map (·.start) ++ [length])).Pairwise fun first second => first.2 ≤ second.1 := by
  induction boundaries with
  | nil => exact fun low => List.pairwise_singleton _ _
  | cons boundary later induction =>
      intro low
      obtain ⟨first, rest⟩ := List.pairwise_cons.mp apart
      have shorter := induction (fun other member =>
        ordered other (List.mem_cons_of_mem _ member)) rest boundary.stop
      apply List.pairwise_cons.mpr
      apply And.intro _ shorter
      intro clause among
      have own := ordered boundary List.mem_cons_self
      rcases List.mem_cons.mp (List.of_mem_zip among).1 with here | after
      · rw [here]
        exact own
      · obtain ⟨other, member, stop_eq⟩ := List.mem_map.mp after
        have behind := first other member
        have further := ordered other (List.mem_cons_of_mem _ member)
        dsimp only at stop_eq ⊢
        omega

theorem clauseSpans_pairwise (content : List Char) :
    (clauseSpans tables content).Pairwise fun first second => first.2 ≤ second.1 := by
  rw [clauseSpans]
  apply List.Pairwise.filter
  apply zip_pairwise _ Regex.finditer_pairwise
  exact fun boundary among => (Regex.finditer_of among).derived.le_after

/-- The windows of a message stand one behind the other. -/
def WindowsApart (allowed : Option AllowedSpans) : Prop :=
  ∀ message, (spansOf allowed message).Pairwise fun first second => first.2 ≤ second.1

theorem windowsApart_actionFieldSpans (grammar : ActionGrammar) (domainContext : Bool)
    (messages : List AcceptedMessage) :
    WindowsApart (some (actionFieldSpans tables grammar domainContext messages)) := by
  intro message
  rcases spansOf_eq_nil_or grammar domainContext messages message with none | kept
  · rw [none]
    exact .nil
  · obtain ⟨other, _, entry_eq⟩ := kept
    have spans_eq := congrArg Prod.snd (List.cons.inj entry_eq).1
    dsimp only at spans_eq
    rw [← spans_eq]
    split
    · exact (clauseSpans_pairwise _).filter _
    · split
      · exact List.pairwise_singleton _ _
      · exact .nil

/-- A field of a window stands in it. -/
theorem span_in_window (reads : regex.readsField groups = true) {content : List Char}
    {window span : Span} {found : RegexMatch}
    (among : found ∈ regex.finditer tables.isWord content window.1 window.2)
    (chosen : groups.findSome? found.span = some span) :
    span.1 < span.2 ∧ window.1 ≤ span.1 ∧ span.2 ≤ window.2 := by
  have matched := Regex.finditer_of among
  obtain ⟨own, ownChosen, filled, short, _⟩ := Regex.span_of_readsField reads matched
  have same : own = span := Option.some.inj (ownChosen.symm.trans chosen)
  rw [same] at filled short
  obtain ⟨after, _⟩ := matched.span_within chosen
  have low := Regex.matchesFrom_start_le (Nat.min_le_right _ _) among
  rw [List.length_take] at short low
  omega

theorem mem_placed {message : AcceptedMessage} {index : Nat} {places : List RegexMatch}
    {occurrence : Occurrence} (member : occurrence ∈ placed groups message index places) :
    occurrence.index = index ∧ occurrence.message = message := by
  obtain ⟨found, _, given⟩ := List.mem_filterMap.mp member
  obtain ⟨span, _, occurrence_eq⟩ := Option.map_eq_some_iff.mp given
  rw [← occurrence_eq]
  exact ⟨rfl, rfl⟩

theorem occurrencesIn_pairwise (reads : regex.readsField groups = true)
    (windows : WindowsApart allowed) (message : AcceptedMessage) (index : Nat) :
    (occurrencesIn tables regex groups allowed message index).Pairwise Occurrence.Apart := by
  rw [occurrencesIn, placed, List.filterMap_flatMap, List.pairwise_flatMap]
  have inWindow : ∀ (window : Span) (occurrence : Occurrence),
      occurrence ∈ (regex.finditer tables.isWord message.content window.1 window.2).filterMap
        (fun found => (groups.findSome? found.span).map fun span =>
          ({ index, message, span } : Occurrence)) →
      window.1 ≤ occurrence.span.1 ∧ occurrence.span.2 ≤ window.2 := by
    intro window occurrence member
    obtain ⟨found, among, given⟩ := List.mem_filterMap.mp member
    obtain ⟨span, chosen, occurrence_eq⟩ := Option.map_eq_some_iff.mp given
    rw [← occurrence_eq]
    exact (span_in_window reads among chosen).2
  constructor
  · intro window _
    rw [List.pairwise_filterMap]
    apply Regex.finditer_pairwise.imp_of_mem
    intro first second firstAmong secondAmong behind one oneGiven other otherGiven
    obtain ⟨span, chosen, one_eq⟩ := Option.map_eq_some_iff.mp oneGiven
    obtain ⟨later, laterChosen, other_eq⟩ := Option.map_eq_some_iff.mp otherGiven
    rw [← one_eq, ← other_eq]
    have ends := ((Regex.finditer_of firstAmong).span_within chosen).2
    have starts := ((Regex.finditer_of secondAmong).span_within laterChosen).1
    exact .inr (.inl (by dsimp only; omega))
  · apply (windows message).imp
    intro first second behind one oneMember other otherMember
    have ends := (inWindow first one oneMember).2
    have starts := (inWindow second other otherMember).1
    exact .inr (.inl (by omega))

/-- The occurrences of one pattern stand apart. -/
theorem occurrences_pairwise (reads : regex.readsField groups = true)
    (windows : WindowsApart allowed) (messages : List AcceptedMessage) :
    (occurrences tables regex groups allowed messages).Pairwise Occurrence.Apart := by
  rw [occurrences, List.pairwise_flatMap]
  constructor
  · exact fun entry _ => occurrencesIn_pairwise reads windows entry.1 entry.2
  · have indices : messages.zipIdx.Pairwise fun first second => first.2 ≠ second.2 := by
      apply List.Pairwise.of_map Prod.snd (fun _ _ different => different)
      rw [List.zipIdx_map_snd]
      exact List.nodup_range'
    apply indices.imp
    intro first second different one oneMember other otherMember
    left
    rw [(mem_placed oneMember).1, (mem_placed otherMember).1]
    exact different

theorem mem_occurrences {messages : List AcceptedMessage} {occurrence : Occurrence}
    (member : occurrence ∈ occurrences tables regex groups allowed messages) :
    occurrence.message ∈ messages := by
  obtain ⟨entry, among, inside⟩ := List.mem_flatMap.mp member
  rw [(mem_placed inside).2]
  exact List.fst_mem_of_mem_zipIdx among

end Reading

/-! ## What an admission reads -/

/-- What the resolution takes from the conversation before it looks at the plan. -/
structure AdmissionReading where
  messages : List AcceptedMessage
  trustedContinuation : Option ActionType
  context : List Char

section Readings

variable (tables : TextTables)

/-- The first half of `resolve_action_admission_v2`. -/
def admissionReading (currentTurn : List Char) (recent : List ConversationItem)
    (request : AdmissionRequest) : Except AdmissionError AdmissionReading := do
  let preceding ← precedingMessages tables request.currentMessageId recent
  let current := currentMessage currentTurn request.currentMessageId
  let context := ((preceding.getLast?).map (·.content)).getD []
  let trustedContinuation :=
    if request.continuesPlan then request.continuationAction
    else if context ≠ [] then
      safeImmediateDomainContinuation tables request.requestedAction current.content context
    else none
  let currentIntents :=
    actionIntents tables [current] trustedContinuation context current.content
  let messages ← consideredMessages tables request preceding current currentIntents
  return { messages, trustedContinuation, context }

/-- The messages ask for this action alone, and it is the planned one. -/
structure Asks (currentTurn : List Char) (request : AdmissionRequest)
    (reading : AdmissionReading) (action : ActionType) : Prop where
  intents : actionIntents tables reading.messages reading.trustedContinuation reading.context
    (currentMessage currentTurn request.currentMessageId).content = [action]
  planned : request.requestedAction = some action
  issue : request.issueType = some (issueTypeOf action)

end Readings

open AdmissionPattern in
def readingRead : Evaluated @admissionReading :=
  ⟨_, by
    delta admissionReading safeImmediateDomainContinuation continues actionIntents
      requestsAction refundActionRequested keyActionRequested entitlementActionRequested
      explicitActionRequested positiveActionClauseSpans positiveSpans positiveSpans._f
      positiveClause clauseSpans keyGrammar entitlementGrammar refundRequestedIn
      refundRequestedIn._f clauses refundDisqualified duplicateChargeRequested consideredMessages
      refundContinuationBlocked
    rw [billingIdRead.same, refundActionRead.same, refundActionNegatedRead.same,
      refundInformationalRead.same, duplicateChargeActionRead.same, actionRequestCueRead.same,
      actionClauseBoundaryRead.same, keyDomainRead.same, entitlementDomainRead.same,
      refundContextContinuationRead.same, keyRevocationRead.same, keyRevocationNegatedRead.same,
      entitlementChangeRead.same, entitlementChangeNegatedRead.same, actionInformationalRead.same,
      actionCoordinatedContinuationRead.same]⟩

/-- What the fields make of an admission. -/
def Concludes (result : ActionAdmissionV2) (action : ActionType) : FieldResolution → Prop
  | .missing field => result.status = .missing ∧ result.reasonCode = .requiredActionFieldsMissing ∧
      result.actionType = some action ∧ result.missingFields = [field]
  | .resolved arguments source => result.status = .admitted ∧
      result.reasonCode = .actionRequestAdmitted ∧ result.actionType = some action ∧
      result.extractedArguments = arguments ∧ result.fieldSources = [source]
  | .mismatch reason _ => result.status = .mismatch ∧ result.reasonCode = reason ∧
      result.actionType = some action

/-- No action is asked for as it is planned. -/
structure Refuses (result : ActionAdmissionV2) : Prop where
  status : result.status ≠ .admitted
  targets : result.reasonCode ≠ .targetAmbiguous

/-- The resolution reads the fields of the action that is asked for, or refuses the plan. -/
theorem resolveActionAdmissionV2_concludes {tables : TextTables} {currentTurn : List Char}
    {recent : List ConversationItem} {request : AdmissionRequest} {reading : AdmissionReading}
    {result : ActionAdmissionV2}
    (read : admissionReading tables currentTurn recent request = .ok reading)
    (resolved : resolveActionAdmissionV2 tables currentTurn recent request = .ok result) :
    (∃ action fields, Asks tables currentTurn request reading action ∧
      actionFields tables request reading.trustedContinuation reading.context reading.messages
        action = .ok fields ∧ Concludes result action fields) ∨
    (∀ action, ¬Asks tables currentTurn request reading action) ∧ Refuses result := by
  simp only [admissionReading, bind_eq_ok_iff] at read
  obtain ⟨preceding, heard, messages, considered, reading_eq⟩ := read
  cases reading_eq
  simp only [resolveActionAdmissionV2, bind_eq_ok_iff] at resolved
  obtain ⟨own, ownHeard, heeded, ownConsidered, resolved⟩ := resolved
  have same : own = preceding := Except.ok.inj (ownHeard.symm.trans heard)
  subst same
  have alike : heeded = messages := Except.ok.inj (ownConsidered.symm.trans considered)
  subst alike
  split at resolved
  · next several =>
    cases resolved
    right
    constructor
    · intro action asks
      cases several.symm.trans asks.intents
    · exact ⟨nofun, nofun⟩
  · next planned =>
    cases resolved
    right
    constructor
    · intro action asks
      cases planned.symm.trans asks.planned
    · exact ⟨nofun, nofun⟩
  · next planned =>
    cases resolved
    right
    constructor
    · intro action asks
      cases planned.symm.trans asks.planned
    · exact ⟨nofun, nofun⟩
  · next intents _ =>
    cases resolved
    right
    constructor
    · intro action asks
      cases intents.symm.trans asks.intents
    · exact ⟨nofun, nofun⟩
  · next parsed requested intents planned =>
    split at resolved
    · next differs =>
      cases resolved
      right
      constructor
      · intro action asks
        have first := (List.cons.inj (intents.symm.trans asks.intents)).1
        have second := Option.some.inj (planned.symm.trans asks.planned)
        exact differs (first.trans second.symm)
      · exact ⟨nofun, nofun⟩
    split at resolved
    · next other =>
      cases resolved
      right
      constructor
      · intro action asks
        have first := (List.cons.inj (intents.symm.trans asks.intents)).1
        rw [first] at other
        exact other asks.issue
      · exact ⟨nofun, nofun⟩
    next agreed issue =>
    rw [bind_eq_ok_iff] at resolved
    obtain ⟨fields, extracted, resolved⟩ := resolved
    left
    have planned_eq : parsed = requested := not_not.mp agreed
    have issue_eq := not_not.mp issue
    refine ⟨parsed, fields, ⟨intents, planned_eq ▸ planned, issue_eq⟩, extracted, ?_⟩
    cases fields with
    | mismatch reason question =>
        cases resolved
        exact ⟨rfl, rfl, rfl⟩
    | missing field =>
        cases resolved
        exact ⟨rfl, rfl, rfl, rfl⟩
    | resolved arguments source =>
        cases resolved
        exact ⟨rfl, rfl, rfl, rfl, rfl⟩

end SupportGuard
