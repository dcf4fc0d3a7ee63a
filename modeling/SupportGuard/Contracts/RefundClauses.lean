import SupportGuard.Contracts.FieldOccurrences

/-! # A refund that a clause refuses

The intent of a refund is read clause by clause, but the bill is read from the whole messages:
the first reference names it, or, of two bills, the relation says which one is the duplicate. So
the bill may be named by the very clause that refuses the refund. -/

namespace SupportGuard

open Foundation Fallible

section Bills

variable (tables : TextTables)

/-- The span lies inside a clause that negates a refund. -/
def InRefusedClause (content : List Char) (span : Span) : Prop :=
  ∃ clause ∈ clauseSpans tables content, clause.1 ≤ span.1 ∧ span.2 ≤ clause.2 ∧
    searches tables AdmissionPattern.refundActionNegated (clauseText content clause) = true

/-- It lies so in a message of this identity and content. -/
def RefusedAt (messages : List AcceptedMessage) (messageId : List Char) (contentHash : String)
    (span : Span) : Prop :=
  ∃ message ∈ messages, messageId = message.messageId ∧ contentHash = message.contentHash ∧
    InRefusedClause tables message.content span

/-- The duplicates in the relations that the messages state. -/
def relationOccurrences (messages : List AcceptedMessage) : List Occurrence :=
  messages.zipIdx.flatMap fun entry =>
    placed [1] entry.1 entry.2 ([AdmissionPattern.duplicateBillingRelationZh,
      AdmissionPattern.duplicateBillingRelationEn].flatMap fun regex =>
        regex.finditer tables.isWord entry.1.content 0 entry.1.content.length)

/-- Where the bill is named: by the first reference if all are to one bill, else by the
duplicate of a relation. -/
def namedBill (messages : List AcceptedMessage) : Option Occurrence :=
  match occurrences tables AdmissionPattern.billingId [0] none messages with
  | [] => none
  | first :: later =>
      if ∀ other ∈ later, tables.casefold other.text = tables.casefold first.text then some first
      else (relationOccurrences tables messages).head?

end Bills

section Naming

variable {tables : TextTables}

variable {messages : List AcceptedMessage}

theorem billingRelations_forall₂ {relations : List DuplicateRelation}
    (related : billingRelations tables messages = .ok relations) :
    List.Forall₂ (fun relation => ReadAt relation.duplicate) relations
      (relationOccurrences tables messages) := by
  simp only [billingRelations, bind_eq_ok_iff] at related
  obtain ⟨all, mapped, relations_eq⟩ := related
  cases relations_eq
  have pairs := mapM_forall₂ mapped
  rw [← List.zipIdx_map_fst 0 messages, List.forall₂_map_left_iff] at pairs
  rw [relationOccurrences, List.flatMap]
  apply List.rel_flatten
  rw [List.forall₂_map_right_iff]
  apply pairs.flip.imp
  intro entries entry read
  have each : ∀ found (relation : DuplicateRelation), (do
        let duplicate ← fieldMatch "billing_record_id" [1] entry.1 found
        let original ← groupText entry.1.content found 2
        return { duplicate, original : DuplicateRelation }) = .ok relation →
      fieldMatch "billing_record_id" [1] entry.1 found = .ok relation.duplicate := by
    intro found relation computed
    simp only [bind_eq_ok_iff] at computed
    obtain ⟨duplicate, matched, original, _, relation_eq⟩ := computed
    cases relation_eq
    exact matched
  exact placed_forall₂ each read entry.2

theorem firstByKey_eq_singleton {Entry Key : Type} [DecidableEq Key] {key : Entry → Key}
    {entries : List Entry} {only : Entry} (unique : firstByKey key entries = [only]) :
    ∃ later, entries = only :: later ∧ ∀ other ∈ later, key other = key only := by
  cases entries with
  | nil => cases unique
  | cons first later =>
      rw [firstByKey] at unique
      obtain ⟨first_eq, rest⟩ := List.cons.inj unique
      rw [← first_eq]
      apply Exists.intro later
      apply And.intro rfl
      intro other member
      obtain ⟨kept, among, same⟩ := exists_mem_firstByKey key member
      have dropped := List.filter_eq_nil_iff.mp rest kept among
      rw [decide_eq_true_eq, not_not] at dropped
      rw [← same]
      exact dropped

theorem firstByKey_same {Entry Key : Type} [DecidableEq Key] {key : Entry → Key} {first : Entry}
    {later : List Entry} (same : ∀ other ∈ later, key other = key first) :
    firstByKey key (first :: later) = [first] := by
  rw [firstByKey, List.filter_eq_nil_iff.mpr]
  intro kept among
  rw [decide_eq_true_eq, not_not]
  exact same kept (mem_of_mem_firstByKey among)

theorem namedBill_message {bill : Occurrence} (named : namedBill tables messages = some bill) :
    bill.message ∈ messages := by
  rw [namedBill] at named
  split at named
  · cases named
  · next first later occurring =>
    split at named
    · have member :
          first ∈ occurrences tables AdmissionPattern.billingId [0] none messages := by
        rw [occurring]
        exact List.mem_cons_self
      rw [← Option.some.inj named]
      exact mem_occurrences member
    · obtain ⟨entry, among, inside⟩ := List.mem_flatMap.mp (List.mem_of_head? named)
      rw [(mem_placed inside).2]
      exact List.fst_mem_of_mem_zipIdx among

/-- The source says where the bill is named. -/
structure Names (source : AdmissionFieldSource) (bill : Occurrence) : Prop where
  messageId : source.messageId = bill.message.messageId
  contentHash : source.contentHash = bill.message.contentHash
  span : (source.spanStart, source.spanEnd) = bill.span

theorem ReadAt.names {entry : FieldMatch} {bill : Occurrence} (readAt : ReadAt entry bill) :
    Names entry.2 bill :=
  ⟨readAt.messageId, readAt.contentHash, readAt.span⟩

/-- The references are to one bill as they are read if and only if they are where they occur. -/
theorem sameBill_iff {first : FieldMatch} {later : List FieldMatch} {place : Occurrence}
    {places : List Occurrence} (readAt : ReadAt first place)
    (pairs : List.Forall₂ ReadAt later places) :
    (∀ other ∈ later, tables.casefold other.1 = tables.casefold first.1) ↔
      ∀ other ∈ places, tables.casefold other.text = tables.casefold place.text := by
  rw [readAt.text]
  induction pairs with
  | nil => exact ⟨nofun, nofun⟩
  | cons here _ induction =>
      rw [List.forall_mem_cons, List.forall_mem_cons, here.text, induction]

theorem duplicateRelationRefundTarget_names {references : List FieldMatch} {target : FieldMatch}
    (targeted : duplicateRelationRefundTarget tables references messages = .ok (some target)) :
    ∃ bill, (relationOccurrences tables messages).head? = some bill ∧ Names target.2 bill := by
  simp only [duplicateRelationRefundTarget, bind_eq_ok_iff] at targeted
  obtain ⟨relations, related, targeted⟩ := targeted
  have pairs := billingRelations_forall₂ related
  generalize relationOccurrences tables messages = places at pairs ⊢
  cases pairs with
  | nil => cases targeted
  | cons readAt rest =>
      cases rest with
      | nil =>
          dsimp only at targeted
          split at targeted
          · cases targeted
            exact ⟨_, rfl, readAt.names⟩
          · cases targeted
      | cons _ _ => cases targeted

theorem refundFields_names {arguments : List (String × Json)} {source : AdmissionFieldSource}
    (resolved : refundFields tables messages = .ok (.resolved arguments source)) :
    ∃ bill, namedBill tables messages = some bill ∧ Names source bill := by
  simp only [refundFields, bind_eq_ok_iff] at resolved
  obtain ⟨found, matched, resolved⟩ := resolved
  have pairs := fieldMatches_forall₂ matched
  rw [namedBill]
  generalize occurrences tables AdmissionPattern.billingId [0] none messages = named at pairs ⊢
  cases pairs with
  | nil => cases resolved
  | @cons first place later places readAt rest =>
      by_cases alike : ∀ other ∈ later, tables.casefold other.1 = tables.casefold first.1
      · have unique : uniqueMatches tables true (first :: later) = [first] := firstByKey_same alike
        rw [unique] at resolved
        cases resolved
        exact ⟨place, if_pos ((sameBill_iff readAt rest).mp alike), readAt.names⟩
      · have several : ¬∀ other ∈ places,
            tables.casefold other.text = tables.casefold place.text :=
          fun same => alike ((sameBill_iff readAt rest).mpr same)
        split at resolved
        · cases resolved
        · next reference unique =>
          obtain ⟨others, split_eq, same⟩ := firstByKey_eq_singleton unique
          obtain ⟨first_eq, later_eq⟩ := List.cons.inj split_eq
          rw [later_eq, first_eq] at alike
          exact absurd same alike
        · rw [bind_eq_ok_iff] at resolved
          obtain ⟨target, targeted, resolved⟩ := resolved
          cases target with
          | none => cases resolved
          | some target =>
              cases resolved
              obtain ⟨bill, chosen, named⟩ := duplicateRelationRefundTarget_names targeted
              exact ⟨bill, (if_neg several).trans chosen, named⟩

/-- An admitted refund names its bill. -/
theorem admitted_names {currentTurn : List Char} {recent : List ConversationItem}
    {request : AdmissionRequest} {reading : AdmissionReading} {result : ActionAdmissionV2}
    (read : admissionReading tables currentTurn recent request = .ok reading)
    (resolved : resolveActionAdmissionV2 tables currentTurn recent request = .ok result)
    (admitted : result.status = .admitted) (acts : result.actionType = some .refund) :
    ∃ source bill, result.fieldSources = [source] ∧
      namedBill tables reading.messages = some bill ∧ Names source bill := by
  rcases resolveActionAdmissionV2_concludes read resolved with concluded | refused
  · obtain ⟨action, fields, _, extracted, concludes⟩ := concluded
    cases fields with
    | missing field => cases concludes.1.symm.trans admitted
    | mismatch reason question => cases concludes.1.symm.trans admitted
    | resolved arguments source =>
        obtain ⟨_, _, acted, _, sources⟩ := concludes
        have same : action = .refund := Option.some.inj (acted.symm.trans acts)
        rw [same] at extracted
        obtain ⟨bill, named, names⟩ := refundFields_names extracted
        exact ⟨source, bill, sources, named, names⟩
  · exact absurd admitted refused.2.status

theorem Names.refusedAt_iff {source : AdmissionFieldSource} {bill : Occurrence}
    (names : Names source bill) :
    RefusedAt tables messages source.messageId source.contentHash
        (source.spanStart, source.spanEnd) ↔
      RefusedAt tables messages bill.message.messageId bill.message.contentHash bill.span := by
  rw [names.messageId, names.contentHash, names.span]

/-- The bill of an admitted refund stands outside the clauses that refuse one if and only if it
is named outside of them. -/
theorem billSource_outside_iff {currentTurn : List Char} {recent : List ConversationItem}
    {request : AdmissionRequest} {reading : AdmissionReading} {result : ActionAdmissionV2}
    (read : admissionReading tables currentTurn recent request = .ok reading)
    (resolved : resolveActionAdmissionV2 tables currentTurn recent request = .ok result)
    (admitted : result.status = .admitted) (acts : result.actionType = some .refund) :
    (∀ source ∈ result.fieldSources, ¬RefusedAt tables reading.messages source.messageId
        source.contentHash (source.spanStart, source.spanEnd)) ↔
      ∀ bill, namedBill tables reading.messages = some bill →
        ¬RefusedAt tables reading.messages bill.message.messageId bill.message.contentHash
          bill.span := by
  obtain ⟨source, bill, sources, named, names⟩ := admitted_names read resolved admitted acts
  rw [sources, List.forall_mem_singleton, names.refusedAt_iff]
  constructor
  · intro outside other chosen
    rw [← Option.some.inj (named.symm.trans chosen)]
    exact outside
  · exact fun outside => outside bill named

end Naming

/-- No admitted refund reads its bill in a clause that refuses a refund. -/
def BillsOutside (tables : TextTables) : Prop :=
  ∀ currentTurn recent request reading result,
    admissionReading tables currentTurn recent request = .ok reading →
    resolveActionAdmissionV2 tables currentTurn recent request = .ok result →
    result.status = .admitted → result.actionType = some .refund →
    ∀ source ∈ result.fieldSources, ¬RefusedAt tables reading.messages source.messageId
      source.contentHash (source.spanStart, source.spanEnd)

/-! ## A bill outside the clause that refuses -/

def askedBill : List Char :=
  "请退款 bill_1，不要退款".toList

theorem askedBill_admitted :
    (resolveActionAdmissionV2 plainTables askedBill [] refundRequest).toOption.any
      (fun result => decide (result.status = .admitted) &&
        decide (result.actionType = some .refund)) = true := by
  rw [admissionRead.same]
  decide +kernel

open AdmissionPattern in
theorem askedBill_reading :
    (admissionReading plainTables askedBill [] refundRequest).toOption.any
      (fun reading => decide (reading.messages.map (·.content) = [askedBill]) &&
        decide ((namedBill plainTables reading.messages).map (·.span) = some (4, 10))) = true := by
  delta namedBill relationOccurrences
  rw [readingRead.same, billingIdRead.same, duplicateBillingRelationZhRead.same,
    duplicateBillingRelationEnRead.same]
  decide +kernel

open AdmissionPattern in
theorem askedBill_clauses : InRefusedClause plainTables askedBill (11, 15) ∧
    ¬InRefusedClause plainTables askedBill (4, 10) := by
  delta InRefusedClause clauseSpans
  rw [actionClauseBoundaryRead.same, refundActionNegatedRead.same]
  decide +kernel

/-- The customer asks for one refund and refuses another. -/
theorem billSource_outside_askedBill :
    ∃ reading result bill,
      admissionReading plainTables askedBill [] refundRequest = .ok reading ∧
      resolveActionAdmissionV2 plainTables askedBill [] refundRequest = .ok result ∧
      namedBill plainTables reading.messages = some bill ∧
      InRefusedClause plainTables bill.message.content (11, 15) ∧
      ∀ source ∈ result.fieldSources, ¬RefusedAt plainTables reading.messages source.messageId
        source.contentHash (source.spanStart, source.spanEnd) := by
  obtain ⟨result, resolved, admits⟩ := ok_of_any askedBill_admitted
  obtain ⟨reading, read, known⟩ := ok_of_any askedBill_reading
  simp only [Bool.and_eq_true, decide_eq_true_eq] at admits known
  obtain ⟨contents, named⟩ := known
  obtain ⟨bill, chosen, span⟩ := Option.map_eq_some_iff.mp named
  have content : ∀ message ∈ reading.messages, message.content = askedBill := by
    intro message member
    have mapped := List.mem_map_of_mem (f := fun message : AcceptedMessage => message.content)
      member
    rw [contents] at mapped
    exact List.mem_singleton.mp mapped
  apply Exists.intro reading
  apply Exists.intro result
  apply Exists.intro bill
  refine ⟨read, resolved, chosen, ?_, ?_⟩
  · rw [content _ (namedBill_message chosen)]
    exact askedBill_clauses.1
  · apply (billSource_outside_iff read resolved admits.1 admits.2).mpr
    intro other otherNamed refused
    obtain ⟨message, heard, _, _, inside⟩ := refused
    rw [← Option.some.inj (chosen.symm.trans otherNamed), span, content message heard] at inside
    exact askedBill_clauses.2 inside

/-! ## A refused bill beside a request -/

/-- Not the first bill, the customer says, and asks for a refund. -/
def refusedBill : List Char :=
  "不要退款 bill_1，请退款".toList

def readsRefusedBill (result : ActionAdmissionV2) : Bool :=
  result.status = .admitted && result.actionType = some .refund &&
    result.fieldSources.map (fun source => (source.spanStart, source.spanEnd)) = [(5, 11)]

theorem refusedBill_admitted :
    (resolveActionAdmissionV2 plainTables refusedBill [] refundRequest).toOption.any
      readsRefusedBill = true := by
  rw [admissionRead.same]
  decide +kernel

theorem refusedBill_reading :
    (admissionReading plainTables refusedBill [] refundRequest).toOption.any
      (fun reading => reading.messages.map (·.content) = [refusedBill]) = true := by
  rw [readingRead.same]
  decide +kernel

open AdmissionPattern in
theorem refusedBill_clause : InRefusedClause plainTables refusedBill (5, 11) := by
  have cut : (0, 11) ∈ clauseSpans plainTables refusedBill := by
    rw [clauseSpans, actionClauseBoundaryRead.same]
    decide +kernel
  have refuses : searches plainTables refundActionNegated
      (clauseText refusedBill (0, 11)) = true := by
    rw [refundActionNegatedRead.same]
    decide +kernel
  exact ⟨(0, 11), cut, by decide, by decide, refuses⟩

/-- The bill of the clause that refuses is refunded. -/
theorem bills_not_outside : ¬BillsOutside plainTables := by
  intro outside
  obtain ⟨result, resolved, reads⟩ := ok_of_any refusedBill_admitted
  obtain ⟨reading, read, contents⟩ := ok_of_any refusedBill_reading
  simp only [readsRefusedBill, Bool.and_eq_true, decide_eq_true_eq] at reads contents
  obtain ⟨⟨admitted, acts⟩, spans⟩ := reads
  obtain ⟨source, bill, sources, named, names⟩ := admitted_names read resolved admitted acts
  apply outside refusedBill [] refundRequest reading result read resolved admitted acts source
  · rw [sources]
    exact List.mem_cons_self
  · have heard := namedBill_message named
    have content : bill.message.content = refusedBill := by
      have mapped := List.mem_map_of_mem (f := fun message : AcceptedMessage => message.content)
        heard
      rw [contents] at mapped
      exact List.mem_singleton.mp mapped
    rw [sources, List.map_singleton] at spans
    rw [List.cons.inj spans |>.1]
    refine ⟨bill.message, heard, names.messageId, names.contentHash, ?_⟩
    rw [content]
    exact refusedBill_clause

end SupportGuard
