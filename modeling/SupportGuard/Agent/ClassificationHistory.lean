import SupportGuard.Database.Rows
import SupportGuard.Foundation.Fallible
import SupportGuard.Foundation.KeysetPage
import SupportGuard.Foundation.PyConversion
import SupportGuard.Foundation.Sha256

/-! # The history that a classification is given

`nodes/intake.py`: the messages before the current one are redacted and selected under a budget.
The newest response keeps its place, and so does the customer message before it. -/

namespace SupportGuard

open Foundation Fallible

namespace ClassificationHistory

/-! ## Messages -/

/-- A row of a message with its text. -/
structure StoredMessage extends TicketMessage where
  content : List Char
deriving DecidableEq

/-- The messages of a database: ids are given out and never empty, and no two messages of one
ticket share a sequence. -/
structure StoredMessages where
  messages : List StoredMessage
  distinct : (messages.map fun message => message.id).Nodup
  identified : ∀ message ∈ messages, message.id ≠ ""
  sequenced : ∀ message ∈ messages, ∀ other ∈ messages, message.ticketId = other.ticketId →
    message.conversationSequence = other.conversationSequence →
    message.conversationSequence ≠ none → message = other

/-- The message of the run: where the history ends. -/
structure CurrentMessage where
  tenantId : String
  ticketId : String
  conversationSequence : Int

inductive HistoryRole
  | customer
  | action
  | assistant
deriving DecidableEq

def HistoryRole.text : HistoryRole → String
  | .customer => "customer"
  | .action => "action"
  | .assistant => "assistant"

/-- A row of the history. -/
structure HistoryRow where
  role : HistoryRole
  content : List Char
  messageId : String
  approvalId : Option String

structure HistoryItem where
  role : HistoryRole
  content : List Char
  messageId : String
  contentHash : String
  approvalId : Option String
  historical : Bool := true
  trusted : Bool := false
  /-- Whether its retention is `latest_pair`. -/
  latestPair : Bool := false
deriving DecidableEq

structure HistoryOmission where
  sectionName : String := "classification_history"
  messageId : String
  reason : String
deriving DecidableEq

/-- The refusals of `ContextBudgetExceeded`. -/
inductive ContextRaise
  | messageBound
  | missingIdentity
  | identityConflict (messageId : String)
  | pairExceedsBudget
  | manifestIncomplete
deriving DecidableEq

def maxHistoryMessages : Nat := 100

def characterBudget : Nat := 3600

/-! ## Rows -/

def historyKinds : List String :=
  ["customer", "assistant", "action_update"]

def StoredMessage.isAction (message : StoredMessage) : Bool :=
  message.role = "action" || message.messageKind = "action_update"

def StoredMessage.historyRow (message : StoredMessage) : HistoryRow where
  role :=
    if message.role ∈ ["user", "customer"] then .customer
    else if message.isAction then .action
    else .assistant
  content := message.content
  messageId := message.id
  approvalId := if message.isAction then message.approvalId.filter (· ≠ "") else none

/-- The messages that the query asks for. -/
def CurrentMessage.precededBy (current : CurrentMessage) (message : StoredMessage) : Bool :=
  message.tenantId = current.tenantId && message.ticketId = current.ticketId &&
    message.messageKind ∈ historyKinds &&
    message.conversationSequence.any (· < current.conversationSequence)

def StoredMessage.sequence (message : StoredMessage) : Int :=
  message.conversationSequence.getD 0

def historyRows (messages : List StoredMessage) (current : CurrentMessage) :
    Except ContextRaise (List HistoryRow) := do
  let found := KeysetPage.page StoredMessage.sequence (maxHistoryMessages + 1)
    (messages.filter current.precededBy)
  refuseWhen (maxHistoryMessages < found.length) .messageBound
  .ok (found.reverse.map StoredMessage.historyRow)

/-! ## Items -/

section

variable (redactPii : List Char → List Char)

def shownContent (row : HistoryRow) : List Char :=
  stripSpace (redactPii row.content)

def itemApproval (row : HistoryRow) : Option String :=
  if row.role = .action then row.approvalId.filter (· ≠ "") else none

def contentHash (content : List Char) : String :=
  Sha256.hexDigest (JsonText.utf8 content)

def identityHash (row : HistoryRow) : String :=
  Sha256.hexDigest (JsonText.utf8 (row.role.text.toList ++ '\x00' ::
    ((contentHash (shownContent redactPii row)).toList ++ '\x00' ::
      ((itemApproval row).getD "").toList)))

def HistoryRow.item (row : HistoryRow) : HistoryItem where
  role := row.role
  content := shownContent redactPii row
  messageId := row.messageId
  contentHash := contentHash (shownContent redactPii row)
  approvalId := itemApproval row

/-- The items of the rows. Blank ones are left out, and so is a message that comes again. -/
def project : List (String × String) → List HistoryRow →
    Except ContextRaise (List HistoryItem × List HistoryOmission)
  | _, [] => .ok ([], [])
  | seen, row :: rest =>
      if shownContent redactPii row = [] then project seen rest
      else if row.messageId = "" then .error .missingIdentity
      else match seen.lookup row.messageId with
        | some previous =>
            if previous ≠ identityHash redactPii row then
              .error (.identityConflict row.messageId)
            else do
              let later ← project seen rest
              .ok (later.1,
                { messageId := row.messageId, reason := "duplicate_message_id" } :: later.2)
        | none => do
            let later ← project ((row.messageId, identityHash redactPii row) :: seen) rest
            .ok (row.item redactPii :: later.1, later.2)

end

/-! ## The latest pair -/

def HistoryItem.mark (item : HistoryItem) : HistoryItem :=
  { item with latestPair := true }

/-- Mark the newest customer message, from the newest item on. -/
def markCustomer : List HistoryItem → List HistoryItem
  | [] => []
  | item :: older =>
      if item.role = .customer then item.mark :: older else item :: markCustomer older

def markResponse : List HistoryItem → List HistoryItem
  | [] => []
  | item :: older =>
      if item.role ≠ .customer then item.mark :: markCustomer older
      else item :: markResponse older

/-- `_mark_latest_history_pair`. -/
def markLatestHistoryPair (items : List HistoryItem) : List HistoryItem :=
  (markResponse items.reverse).reverse

/-! ## The budget -/

def HistoryItem.cost (item : HistoryItem) : Nat :=
  item.content.length

def totalCost (items : List HistoryItem) : Nat :=
  (items.map HistoryItem.cost).sum

def HistoryItem.omission (item : HistoryItem) : HistoryOmission where
  messageId := item.messageId
  reason := "classification_budget_older_message"

/-- What is selected and what is omitted of the items, from the newest one on. -/
def fillBudget : Nat → List HistoryItem → List HistoryItem × List HistoryOmission
  | _, [] => ([], [])
  | remaining, item :: older =>
      if item.latestPair then
        let later := fillBudget remaining older
        (item :: later.1, later.2)
      else if remaining < item.cost then
        let later := fillBudget remaining older
        (later.1, item.omission :: later.2)
      else
        let later := fillBudget (remaining - item.cost) older
        (item :: later.1, later.2)

/-- Whether the omissions for the budget are those items that are not selected. -/
def ManifestComplete (projected selected : List HistoryItem) (omitted : List HistoryOmission) :
    Prop :=
  let selectedIds := selected.map HistoryItem.messageId
  let omittedIds := (omitted.filter fun omission =>
    omission.reason = "classification_budget_older_message").map HistoryOmission.messageId
  let expectedIds := (projected.map HistoryItem.messageId).filter (· ∉ selectedIds)
  (∀ id ∈ omittedIds, id ∈ expectedIds) ∧ ∀ id ∈ expectedIds, id ∈ omittedIds

instance (projected selected : List HistoryItem) (omitted : List HistoryOmission) :
    Decidable (ManifestComplete projected selected omitted) :=
  inferInstanceAs (Decidable (_ ∧ _))

/-- `_select_classification_context`. -/
def selectClassificationContext (redactPii : List Char → List Char)
    (messages : List StoredMessage) (current : CurrentMessage) :
    Except ContextRaise (List HistoryItem × List HistoryOmission) := do
  let rows ← historyRows messages current
  let (items, duplicates) ← project redactPii [] rows
  let projected := markLatestHistoryPair items
  let protectedCost := totalCost (projected.filter HistoryItem.latestPair)
  refuseWhen (characterBudget < protectedCost) .pairExceedsBudget
  let filled := fillBudget (characterBudget - protectedCost) projected.reverse
  let selected := filled.1.reverse
  let omitted := duplicates ++ filled.2
  refuseWhen (¬ManifestComplete projected selected omitted) .manifestIncomplete
  .ok (selected, omitted)

/-- `_recent_action_message_approval_id`. -/
def recentActionMessageApprovalId (items : List HistoryItem) : Option String :=
  match items.reverse.find? fun item => item.role ≠ .customer with
  | none => none
  | some item =>
      if item.role ≠ .action then none else item.approvalId.filter (· ≠ "")

/-! ## What may be selected -/

/-- The messages before the current one, in the order of the conversation. -/
def earlierMessages (messages : List StoredMessage) (current : CurrentMessage) :
    List StoredMessage :=
  (messages.filter current.precededBy).insertionSort fun left right =>
    left.sequence ≤ right.sequence

/-- Their items: redacted, and not blank. -/
def visibleItems (redactPii : List Char → List Char) (messages : List StoredMessage)
    (current : CurrentMessage) : List HistoryItem :=
  ((earlierMessages messages current).map StoredMessage.historyRow).filterMap fun row =>
    if shownContent redactPii row = [] then none else some (row.item redactPii)

def isCustomer (item : HistoryItem) : Bool :=
  item.role = .customer

def isResponse (item : HistoryItem) : Bool :=
  item.role ≠ .customer

/-- The newest response, and the customer message before it. -/
def latestPair (items : List HistoryItem) : List HistoryItem :=
  match items.reverse.dropWhile isCustomer with
  | [] => []
  | response :: older => response :: (older.find? isCustomer).toList

def HistoryItem.unmarked (item : HistoryItem) : HistoryItem :=
  { item with latestPair := false }

/-- The approval of the newest response, when that is an action update. -/
def newestActionApproval (items : List HistoryItem) : Option String :=
  (items.reverse.find? isResponse).bind fun response =>
    if response.role = .action then response.approvalId else none

/-- A selection in order and within the budget, with the latest pair; what is not selected is
omitted, and once. -/
structure SelectsHistory (visible selected : List HistoryItem)
    (omitted : List HistoryOmission) : Prop where
  inOrder : (selected.map HistoryItem.unmarked).Sublist visible
  withinBudget : totalCost selected ≤ characterBudget
  latest : ∀ item ∈ latestPair visible, item ∈ selected.map HistoryItem.unmarked
  accounted : ∀ item ∈ visible,
    (selected.map HistoryItem.messageId).count item.messageId +
      (omitted.map HistoryOmission.messageId).count item.messageId = 1
  omissions : ∀ omission ∈ omitted, ∃ item ∈ visible, omission = item.omission
  referent : recentActionMessageApprovalId selected = newestActionApproval visible

/-! ## Rows in order -/

section

variable {messages : List StoredMessage} {current : CurrentMessage}

theorem precededBy_iff {message : StoredMessage} : current.precededBy message = true ↔
    message.tenantId = current.tenantId ∧ message.ticketId = current.ticketId ∧
      message.messageKind ∈ historyKinds ∧ ∃ sequence,
        message.conversationSequence = some sequence ∧ sequence < current.conversationSequence := by
  unfold CurrentMessage.precededBy
  rw [Bool.and_eq_true, Bool.and_eq_true, Bool.and_eq_true, decide_eq_true_eq, decide_eq_true_eq,
    decide_eq_true_eq, Option.any_eq_true, and_assoc, and_assoc]
  simp only [decide_eq_true_eq]

/-- Two earlier messages with one sequence are one message. -/
theorem eq_of_sequence (stored : StoredMessages) {message other : StoredMessage}
    (member : message ∈ stored.messages.filter current.precededBy)
    (otherMember : other ∈ stored.messages.filter current.precededBy)
    (same : message.sequence = other.sequence) : message = other := by
  rcases List.mem_filter.mp member with ⟨inMessages, preceded⟩
  rcases List.mem_filter.mp otherMember with ⟨otherInMessages, otherPreceded⟩
  rcases precededBy_iff.mp preceded with ⟨_, ticket, _, sequence, known, _⟩
  rcases precededBy_iff.mp otherPreceded with ⟨_, otherTicket, _, otherSequence, otherKnown, _⟩
  rw [StoredMessage.sequence, StoredMessage.sequence, known, otherKnown, Option.getD_some,
    Option.getD_some] at same
  apply stored.sequenced message inMessages other otherInMessages
  · rw [ticket, otherTicket]
  · rw [known, otherKnown, same]
  · rw [known]
    exact Option.some_ne_none sequence

theorem reverse_descending (stored : StoredMessages) (current : CurrentMessage) :
    (KeysetPage.descending StoredMessage.sequence
      (stored.messages.filter current.precededBy)).reverse =
        earlierMessages stored.messages current := by
  have total : Std.Total fun left right : StoredMessage => left.sequence ≤ right.sequence :=
    ⟨fun left right => le_total left.sequence right.sequence⟩
  have transitive : IsTrans StoredMessage fun left right => left.sequence ≤ right.sequence :=
    ⟨fun _ _ _ first second => first.trans second⟩
  have same : (KeysetPage.descending StoredMessage.sequence
      (stored.messages.filter current.precededBy)).reverse.Perm
        (earlierMessages stored.messages current) :=
    (List.reverse_perm _).trans
      ((List.perm_insertionSort _ _).trans (List.perm_insertionSort _ _).symm)
  apply @List.Perm.eq_of_pairwise _ (fun left right => left.sequence ≤ right.sequence) _ _ _ _ _
    same
  · intro message other member otherMember before after
    apply @eq_of_sequence current stored
    · exact KeysetPage.mem_descending.mp (List.mem_reverse.mp member)
    · exact (List.perm_insertionSort _ _).subset otherMember
    · exact le_antisymm before after
  · rw [List.pairwise_reverse]
    exact KeysetPage.descending_sorted _
  · exact List.pairwise_insertionSort _ _

theorem length_earlierMessages (messages : List StoredMessage) (current : CurrentMessage) :
    (earlierMessages messages current).length = (messages.filter current.precededBy).length :=
  List.length_insertionSort _ _

/-- The query either meets the bound or gives all earlier messages in their order. -/
theorem historyRows_eq (stored : StoredMessages) (current : CurrentMessage) :
    historyRows stored.messages current =
      if maxHistoryMessages < (earlierMessages stored.messages current).length then
        .error .messageBound
      else .ok ((earlierMessages stored.messages current).map StoredMessage.historyRow) := by
  have length := length_earlierMessages stored.messages current
  have pageLength : (KeysetPage.page StoredMessage.sequence (maxHistoryMessages + 1)
      (stored.messages.filter current.precededBy)).length =
        min (maxHistoryMessages + 1) (earlierMessages stored.messages current).length := by
    rw [KeysetPage.page, List.length_take, KeysetPage.descending, List.length_insertionSort, length]
  unfold historyRows
  dsimp only
  rw [pageLength]
  by_cases many : maxHistoryMessages < (earlierMessages stored.messages current).length
  · rw [if_pos many, refuseWhen, if_pos (by omega)]
    rfl
  · rw [if_neg many, refuseWhen, if_neg (by omega), ← reverse_descending, KeysetPage.page,
      List.take_of_length_le]
    · rfl
    · rw [KeysetPage.descending, List.length_insertionSort, ← length]
      omega

theorem earlierMessages_nodup (stored : StoredMessages) (current : CurrentMessage) :
    ((earlierMessages stored.messages current).map fun message => message.id).Nodup :=
  ((List.perm_insertionSort _ _).map _).nodup_iff.mpr
    (stored.distinct.sublist (List.filter_sublist.map _))

end

/-! ## Items of distinct rows -/

section

variable {redactPii : List Char → List Char}

/-- Rows with distinct ids become their items. -/
theorem project_eq {seen : List (String × String)} {rows : List HistoryRow}
    (identified : ∀ row ∈ rows, row.messageId ≠ "")
    (distinct : (rows.map HistoryRow.messageId).Nodup)
    (fresh : ∀ row ∈ rows, row.messageId ∉ seen.map Prod.fst) :
    project redactPii seen rows = .ok (rows.filterMap fun row =>
      if shownContent redactPii row = [] then none else some (row.item redactPii), []) := by
  induction rows generalizing seen with
  | nil => rfl
  | cons row rest induction =>
      rcases List.forall_mem_cons.mp identified with ⟨named, laterIdentified⟩
      rcases List.forall_mem_cons.mp fresh with ⟨new, laterFresh⟩
      rcases List.nodup_cons.mp distinct with ⟨once, laterDistinct⟩
      rw [project, List.filterMap_cons]
      by_cases blank : shownContent redactPii row = []
      · rw [if_pos blank, if_pos blank]
        exact induction laterIdentified laterDistinct laterFresh
      · have unseen : seen.lookup row.messageId = none := by
          rw [List.lookup_eq_none_iff]
          intro entry member
          rw [bne_iff_ne]
          intro same
          exact new (same ▸ List.mem_map_of_mem member)
        rw [if_neg blank, if_neg blank, if_neg named, unseen]
        dsimp only
        rw [induction laterIdentified laterDistinct]
        · rfl
        · intro other member
          rw [List.map_cons, List.mem_cons, not_or]
          refine ⟨?_, laterFresh other member⟩
          intro same
          have again : other.messageId = row.messageId := same
          exact once (again ▸ List.mem_map_of_mem member)

end

/-! ## Marks -/

/-- The latest pair of items that stand from the newest one on. -/
def newestPair (items : List HistoryItem) : List HistoryItem :=
  match items.dropWhile isCustomer with
  | [] => []
  | response :: older => response :: (older.find? isCustomer).toList

theorem isResponse_iff {item : HistoryItem} : isResponse item = true ↔ item.role ≠ .customer := by
  rw [isResponse, decide_eq_true_eq]

theorem isCustomer_iff {item : HistoryItem} : isCustomer item = true ↔ item.role = .customer := by
  rw [isCustomer, decide_eq_true_eq]

section

variable {items : List HistoryItem}

theorem unmarked_eq {item : HistoryItem} (plain : item.latestPair = false) :
    item.unmarked = item := by
  cases item
  cases plain
  rfl

theorem unmarked_mark {item : HistoryItem} (plain : item.latestPair = false) :
    item.mark.unmarked = item :=
  unmarked_eq plain

theorem map_unmarked (plain : ∀ item ∈ items, item.latestPair = false) :
    items.map HistoryItem.unmarked = items := by
  rw [List.map_congr_left fun item member => unmarked_eq (plain item member), List.map_id']

theorem filter_unmarked (plain : ∀ item ∈ items, item.latestPair = false) :
    items.filter HistoryItem.latestPair = [] := by
  rw [List.filter_eq_nil_iff]
  intro item member marked
  rw [plain item member] at marked
  cases marked

/-- Marking only marks. -/
theorem markCustomer_unmarked (plain : ∀ item ∈ items, item.latestPair = false) :
    (markCustomer items).map HistoryItem.unmarked = items := by
  induction items with
  | nil => rfl
  | cons item older induction =>
      rcases List.forall_mem_cons.mp plain with ⟨first, others⟩
      unfold markCustomer
      split
      · rw [List.map_cons, unmarked_mark first, map_unmarked others]
      · rw [List.map_cons, unmarked_eq first, induction others]

theorem markResponse_unmarked (plain : ∀ item ∈ items, item.latestPair = false) :
    (markResponse items).map HistoryItem.unmarked = items := by
  induction items with
  | nil => rfl
  | cons item older induction =>
      rcases List.forall_mem_cons.mp plain with ⟨first, others⟩
      unfold markResponse
      split
      · rw [List.map_cons, unmarked_mark first, markCustomer_unmarked others]
      · rw [List.map_cons, unmarked_eq first, induction others]

theorem markCustomer_marked (plain : ∀ item ∈ items, item.latestPair = false) :
    (markCustomer items).filter HistoryItem.latestPair =
      (items.find? isCustomer).toList.map HistoryItem.mark := by
  induction items with
  | nil => rfl
  | cons item older induction =>
      rcases List.forall_mem_cons.mp plain with ⟨first, others⟩
      unfold markCustomer
      split
      · rename_i customer
        rw [List.find?_cons_of_pos (isCustomer_iff.mpr customer), List.filter_cons_of_pos rfl,
          filter_unmarked others]
        rfl
      · rename_i response
        rw [List.find?_cons_of_neg (mt isCustomer_iff.mp response),
          List.filter_cons_of_neg (by rw [first]; exact Bool.false_ne_true), induction others]

/-- What is marked is the latest pair. -/
theorem markResponse_marked (plain : ∀ item ∈ items, item.latestPair = false) :
    (markResponse items).filter HistoryItem.latestPair =
      (newestPair items).map HistoryItem.mark := by
  induction items with
  | nil => rfl
  | cons item older induction =>
      rcases List.forall_mem_cons.mp plain with ⟨first, others⟩
      unfold markResponse newestPair
      split
      · rename_i response
        rw [List.dropWhile_cons_of_neg (mt isCustomer_iff.mp response),
          List.filter_cons_of_pos rfl, markCustomer_marked others]
        rfl
      · rename_i customer
        rw [List.dropWhile_cons_of_pos (isCustomer_iff.mpr (not_not.mp customer)),
          List.filter_cons_of_neg (by rw [first]; exact Bool.false_ne_true), induction others]
        rfl

/-- The newest response is marked. -/
theorem find?_markResponse :
    (markResponse items).find? isResponse = (items.find? isResponse).map HistoryItem.mark := by
  induction items with
  | nil => rfl
  | cons item older induction =>
      unfold markResponse
      split
      · rename_i response
        have marked : isResponse item.mark = true := isResponse_iff.mpr response
        rw [List.find?_cons_of_pos marked, List.find?_cons_of_pos (isResponse_iff.mpr response)]
        rfl
      · rename_i customer
        rw [List.find?_cons_of_neg (mt isResponse_iff.mp customer),
          List.find?_cons_of_neg (mt isResponse_iff.mp customer), induction]

end

/-! ## Filling the budget -/

section

variable {items : List HistoryItem} {remaining : Nat}

theorem fillBudget_sublist (remaining : Nat) (items : List HistoryItem) :
    (fillBudget remaining items).1.Sublist items := by
  induction items generalizing remaining with
  | nil => exact List.nil_sublist _
  | cons item older induction =>
      unfold fillBudget
      split
      · exact (induction remaining).cons_cons item
      · split
        · exact (induction remaining).cons item
        · exact (induction (remaining - item.cost)).cons_cons item

theorem mem_fillBudget {item : HistoryItem} (member : item ∈ items)
    (marked : item.latestPair = true) : item ∈ (fillBudget remaining items).1 := by
  induction items generalizing remaining with
  | nil => cases member
  | cons first older induction =>
      unfold fillBudget
      rcases List.mem_cons.mp member with same | later
      · subst same
        rw [if_pos marked]
        exact List.mem_cons_self
      · split
        · exact List.mem_cons_of_mem _ (induction later)
        · split
          · exact induction later
          · exact List.mem_cons_of_mem _ (induction later)

theorem totalCost_cons (item : HistoryItem) (older : List HistoryItem) :
    totalCost (item :: older) = item.cost + totalCost older := rfl

theorem totalCost_fillBudget (remaining : Nat) (items : List HistoryItem) :
    totalCost (fillBudget remaining items).1 ≤
      totalCost (items.filter HistoryItem.latestPair) + remaining := by
  induction items generalizing remaining with
  | nil => exact Nat.zero_le _
  | cons item older induction =>
      unfold fillBudget
      split
      · rename_i marked
        rw [List.filter_cons_of_pos marked, totalCost_cons, totalCost_cons]
        have later := induction remaining
        omega
      · rename_i unmarked
        rw [List.filter_cons_of_neg unmarked]
        split
        · exact induction remaining
        · rw [totalCost_cons]
          have later := induction (remaining - item.cost)
          omega

/-- Every item is selected or omitted. -/
theorem fillBudget_perm (remaining : Nat) (items : List HistoryItem) :
    ((fillBudget remaining items).1.map HistoryItem.messageId ++
      (fillBudget remaining items).2.map HistoryOmission.messageId).Perm
        (items.map HistoryItem.messageId) := by
  induction items generalizing remaining with
  | nil => exact List.Perm.refl _
  | cons item older induction =>
      unfold fillBudget
      split
      · exact (induction remaining).cons item.messageId
      · split
        · exact List.perm_middle.trans ((induction remaining).cons item.messageId)
        · exact (induction (remaining - item.cost)).cons item.messageId

theorem fillBudget_omissions {omission : HistoryOmission}
    (member : omission ∈ (fillBudget remaining items).2) :
    ∃ item ∈ items, omission = item.omission := by
  induction items generalizing remaining with
  | nil => cases member
  | cons item older induction =>
      have behind (found : ∃ other ∈ older, omission = other.omission) :
          ∃ other ∈ item :: older, omission = other.omission := by
        rcases found with ⟨other, inOlder, same⟩
        exact ⟨other, List.mem_cons_of_mem _ inOlder, same⟩
      unfold fillBudget at member
      split at member
      · exact behind (induction member)
      · split at member
        · rcases List.mem_cons.mp member with same | later
          · exact ⟨item, List.mem_cons_self, same⟩
          · exact behind (induction later)
        · exact behind (induction member)

/-- The newest response stays the newest one, since it is marked. -/
theorem find?_fillBudget (marked : ∀ response, items.find? isResponse = some response →
      response.latestPair = true) :
    (fillBudget remaining items).1.find? isResponse = items.find? isResponse := by
  induction items generalizing remaining with
  | nil => rfl
  | cons item older induction =>
      unfold fillBudget
      by_cases response : isResponse item = true
      · rw [if_pos (marked item (List.find?_cons_of_pos response)),
          List.find?_cons_of_pos response, List.find?_cons_of_pos response]
      · rw [List.find?_cons_of_neg response] at marked ⊢
        split
        · rw [List.find?_cons_of_neg response]
          exact induction marked
        · split
          · exact induction marked
          · rw [List.find?_cons_of_neg response]
            exact induction marked

end

/-! ## The selection -/

section

variable {items : List HistoryItem}

theorem totalCost_perm {left right : List HistoryItem} (same : left.Perm right) :
    totalCost left = totalCost right :=
  (same.map HistoryItem.cost).sum_eq

theorem totalCost_mark (items : List HistoryItem) :
    totalCost (items.map HistoryItem.mark) = totalCost items := by
  unfold totalCost
  rw [List.map_map]
  rfl

theorem reverse_markLatestHistoryPair (items : List HistoryItem) :
    (markLatestHistoryPair items).reverse = markResponse items.reverse :=
  List.reverse_reverse _

theorem plain_reverse (plain : ∀ item ∈ items, item.latestPair = false) :
    ∀ item ∈ items.reverse, item.latestPair = false :=
  fun item member => plain item (List.mem_reverse.mp member)

theorem protectedCost_eq (plain : ∀ item ∈ items, item.latestPair = false) :
    totalCost ((markLatestHistoryPair items).filter HistoryItem.latestPair) =
      totalCost (latestPair items) := by
  have pair : newestPair items.reverse = latestPair items := rfl
  unfold markLatestHistoryPair
  rw [List.filter_reverse, totalCost_perm (List.reverse_perm _),
    markResponse_marked (plain_reverse plain), totalCost_mark, pair]

theorem markResponse_ids (plain : ∀ item ∈ items, item.latestPair = false) :
    (markResponse items).map HistoryItem.messageId = items.map HistoryItem.messageId := by
  have same : (markResponse items).map HistoryItem.messageId =
      ((markResponse items).map HistoryItem.unmarked).map HistoryItem.messageId := by
    rw [List.map_map]
    rfl
  rw [same, markResponse_unmarked plain]

theorem newestPair_subset : newestPair items ⊆ items := by
  unfold newestPair
  split
  · exact List.nil_subset _
  · rename_i response older found
    have whole : response :: older ⊆ items := by
      rw [← found]
      exact (List.dropWhile_sublist _).subset
    intro other otherMember
    rcases List.mem_cons.mp otherMember with same | customer
    · exact whole (same ▸ List.mem_cons_self)
    · apply whole
      apply List.mem_cons_of_mem
      exact List.mem_of_find?_eq_some (Option.mem_toList.mp customer)

theorem newestActionApproval_eq (approvals : ∀ item ∈ items, item.approvalId ≠ some "")
    {selected : List HistoryItem}
    (newest : selected.reverse.find? isResponse =
      (items.reverse.find? isResponse).map HistoryItem.mark) :
    recentActionMessageApprovalId selected = newestActionApproval items := by
  unfold recentActionMessageApprovalId newestActionApproval
  have same : (fun item : HistoryItem => decide (item.role ≠ .customer)) = isResponse := rfl
  rw [same, newest]
  cases found : items.reverse.find? isResponse with
  | none => rfl
  | some response =>
      have named := approvals response (List.mem_reverse.mp (List.mem_of_find?_eq_some found))
      have role : response.mark.role = response.role := rfl
      have approval : response.mark.approvalId = response.approvalId := rfl
      rw [Option.map_some, Option.bind_some]
      dsimp only
      rw [role, approval]
      by_cases action : response.role = .action
      · rw [if_neg (not_not.mpr action), if_pos action]
        cases held : response.approvalId with
        | none => rfl
        | some text =>
            have nonempty : text ≠ "" := fun empty => named (empty ▸ held)
            simp [nonempty]
      · rw [if_pos action, if_neg action]

/-- What the loop over the budget selects. -/
def filled (items : List HistoryItem) : List HistoryItem × List HistoryOmission :=
  fillBudget (characterBudget - totalCost (latestPair items)) (markResponse items.reverse)

theorem filled_perm (plain : ∀ item ∈ items, item.latestPair = false) :
    ((filled items).1.reverse.map HistoryItem.messageId ++
      (filled items).2.map HistoryOmission.messageId).Perm
        (items.map HistoryItem.messageId) := by
  have split := fillBudget_perm (characterBudget - totalCost (latestPair items))
    (markResponse items.reverse)
  rw [markResponse_ids (plain_reverse plain)] at split
  have front := ((filled items).1.reverse_perm.map HistoryItem.messageId).append_right
    ((filled items).2.map HistoryOmission.messageId)
  exact front.trans (split.trans ((List.reverse_perm items).map _))

theorem filled_selects (plain : ∀ item ∈ items, item.latestPair = false)
    (distinct : (items.map HistoryItem.messageId).Nodup)
    (approvals : ∀ item ∈ items, item.approvalId ≠ some "")
    (fits : totalCost (latestPair items) ≤ characterBudget) :
    SelectsHistory items (filled items).1.reverse (filled items).2 := by
  have pair : newestPair items.reverse = latestPair items := rfl
  have unmarked := markResponse_unmarked (plain_reverse plain)
  constructor
  case inOrder =>
    have part := (fillBudget_sublist (characterBudget - totalCost (latestPair items))
      (markResponse items.reverse)).map HistoryItem.unmarked
    rw [unmarked] at part
    have inOrder := part.reverse
    rw [List.reverse_reverse, ← List.map_reverse] at inOrder
    exact inOrder
  case withinBudget =>
    have cost := totalCost_fillBudget (characterBudget - totalCost (latestPair items))
      (markResponse items.reverse)
    rw [markResponse_marked (plain_reverse plain), totalCost_mark, pair] at cost
    rw [totalCost_perm (List.reverse_perm _)]
    exact cost.trans (by omega)
  case latest =>
    intro item member
    have marked : item.mark ∈ (markResponse items.reverse).filter HistoryItem.latestPair := by
      rw [markResponse_marked (plain_reverse plain)]
      exact List.mem_map_of_mem member
    rcases List.mem_filter.mp marked with ⟨inMarked, isMarked⟩
    have inItems : item.mark.unmarked ∈ items.reverse := by
      rw [← unmarked]
      exact List.mem_map_of_mem inMarked
    have itself : item.mark.unmarked = item :=
      unmarked_mark (plain item (List.mem_reverse.mp (newestPair_subset member)))
    rw [← itself]
    apply List.mem_map_of_mem
    exact List.mem_reverse.mpr (mem_fillBudget inMarked isMarked)
  case accounted =>
    intro item member
    rw [← List.count_append, (filled_perm plain).count_eq]
    exact List.count_eq_one_of_mem distinct (List.mem_map_of_mem member)
  case omissions =>
    intro omission member
    rcases fillBudget_omissions member with ⟨item, inMarked, same⟩
    refine ⟨item.unmarked, ?_, same⟩
    apply List.mem_reverse.mp
    rw [← unmarked]
    exact List.mem_map_of_mem inMarked
  case referent =>
    apply newestActionApproval_eq approvals
    rw [List.reverse_reverse, ← find?_markResponse]
    apply find?_fillBudget
    intro response found
    rw [find?_markResponse, Option.map_eq_some_iff] at found
    rcases found with ⟨original, _, same⟩
    rw [← same]
    rfl

/-- The manifest is always complete. -/
theorem filled_complete (plain : ∀ item ∈ items, item.latestPair = false)
    (distinct : (items.map HistoryItem.messageId).Nodup) :
    ManifestComplete (markLatestHistoryPair items) (filled items).1.reverse (filled items).2 := by
  have split := filled_perm plain
  have once := split.nodup_iff.mpr distinct
  have reasons : ((filled items).2.filter fun omission =>
      omission.reason = "classification_budget_older_message") = (filled items).2 := by
    rw [List.filter_eq_self]
    intro omission member
    rcases fillBudget_omissions member with ⟨item, _, same⟩
    rw [same]
    exact decide_eq_true rfl
  have ids (id : String) : id ∈ (markLatestHistoryPair items).map HistoryItem.messageId ↔
      id ∈ items.map HistoryItem.messageId := by
    rw [markLatestHistoryPair, List.map_reverse, List.mem_reverse,
      markResponse_ids (plain_reverse plain), List.map_reverse, List.mem_reverse]
  unfold ManifestComplete
  dsimp only
  rw [reasons]
  constructor
  · intro id member
    rw [List.mem_filter, ids, ← split.mem_iff, decide_eq_true_eq]
    refine ⟨List.mem_append_right _ member, ?_⟩
    intro selected
    exact List.disjoint_of_nodup_append once selected member
  · intro id member
    rw [List.mem_filter, ids, ← split.mem_iff, decide_eq_true_eq, List.mem_append] at member
    exact member.1.resolve_left member.2

end

theorem visibleItems_plain {redactPii : List Char → List Char} {messages : List StoredMessage}
    {current : CurrentMessage} : ∀ item ∈ visibleItems redactPii messages current,
      item.latestPair = false ∧ item.approvalId ≠ some "" := by
  intro item member
  rcases List.mem_filterMap.mp member with ⟨row, _, shown⟩
  split at shown
  · cases shown
  · cases shown
    refine ⟨rfl, ?_⟩
    intro empty
    have approval : itemApproval row = some "" := empty
    unfold itemApproval at approval
    split at approval
    · rw [Option.filter_eq_some_iff, decide_eq_true_eq] at approval
      exact approval.2 rfl
    · cases approval

theorem visibleItems_distinct {redactPii : List Char → List Char} (stored : StoredMessages)
    (current : CurrentMessage) :
    ((visibleItems redactPii stored.messages current).map HistoryItem.messageId).Nodup := by
  have part (rows : List HistoryRow) : ((rows.filterMap fun row =>
      if shownContent redactPii row = [] then none else some (row.item redactPii)).map
        HistoryItem.messageId).Sublist (rows.map HistoryRow.messageId) := by
    induction rows with
    | nil => exact List.nil_sublist _
    | cons row rest induction =>
        rw [List.filterMap_cons]
        split
        · exact induction.cons _
        · rename_i item shown
          split at shown
          · cases shown
          · cases shown
            exact induction.cons_cons _
  have rows := earlierMessages_nodup stored current
  have ids : (((earlierMessages stored.messages current).map StoredMessage.historyRow).map
      HistoryRow.messageId) = (earlierMessages stored.messages current).map
        fun message => message.id := by
    rw [List.map_map]
    rfl
  rw [← ids] at rows
  exact rows.sublist (part _)

/-- Too many messages before the current one raise, and so does a latest pair that is too long.
Otherwise the visible messages are selected in order and within the budget. -/
theorem selectClassificationContext_spec (redactPii : List Char → List Char)
    (stored : StoredMessages) (current : CurrentMessage) :
    (maxHistoryMessages < (earlierMessages stored.messages current).length ∧
      selectClassificationContext redactPii stored.messages current = .error .messageBound) ∨
    ((earlierMessages stored.messages current).length ≤ maxHistoryMessages ∧
      characterBudget < totalCost (latestPair (visibleItems redactPii stored.messages current)) ∧
      selectClassificationContext redactPii stored.messages current =
        .error .pairExceedsBudget) ∨
    ((earlierMessages stored.messages current).length ≤ maxHistoryMessages ∧
      totalCost (latestPair (visibleItems redactPii stored.messages current)) ≤ characterBudget ∧
      ∃ selected omitted, selectClassificationContext redactPii stored.messages current =
          .ok (selected, omitted) ∧
        SelectsHistory (visibleItems redactPii stored.messages current) selected omitted) := by
  have rows := historyRows_eq stored current
  by_cases many : maxHistoryMessages < (earlierMessages stored.messages current).length
  · left
    refine ⟨many, ?_⟩
    rw [if_pos many] at rows
    unfold selectClassificationContext
    rw [rows]
    rfl
  · right
    rw [if_neg many] at rows
    have plain : ∀ item ∈ visibleItems redactPii stored.messages current,
        item.latestPair = false := fun item member => (visibleItems_plain item member).1
    have distinct := @visibleItems_distinct redactPii stored current
    have projected : project redactPii []
        ((earlierMessages stored.messages current).map StoredMessage.historyRow) =
          .ok (visibleItems redactPii stored.messages current, []) := by
      apply project_eq
      · intro row member
        rcases List.mem_map.mp member with ⟨message, inEarlier, rfl⟩
        exact stored.identified message
          (List.mem_filter.mp ((List.perm_insertionSort _ _).subset inEarlier)).1
      · rw [List.map_map]
        exact earlierMessages_nodup stored current
      · exact fun row _ => List.not_mem_nil
    have started : selectClassificationContext redactPii stored.messages current =
        (refuseWhen (characterBudget <
          totalCost (latestPair (visibleItems redactPii stored.messages current)))
            .pairExceedsBudget).bind fun _ =>
          .ok ((filled (visibleItems redactPii stored.messages current)).1.reverse,
            (filled (visibleItems redactPii stored.messages current)).2) := by
      have complete := filled_complete plain distinct
      unfold filled at complete
      unfold selectClassificationContext filled
      rw [rows]
      simp only [bind, Except.bind]
      rw [projected]
      dsimp only
      rw [protectedCost_eq plain, reverse_markLatestHistoryPair, List.nil_append, refuseWhen,
        refuseWhen, if_neg (not_not.mpr complete)]
    rw [started]
    by_cases fits : totalCost (latestPair (visibleItems redactPii stored.messages current)) ≤
        characterBudget
    · right
      refine ⟨Nat.not_lt.mp many, fits, _, _, ?_, filled_selects plain distinct
        (fun item member => (visibleItems_plain item member).2) fits⟩
      rw [refuseWhen, if_neg (Nat.not_lt.mpr fits)]
      rfl
    · left
      refine ⟨Nat.not_lt.mp many, Nat.not_le.mp fits, ?_⟩
      rw [refuseWhen, if_pos (Nat.not_le.mp fits)]
      rfl

def historyMessage (id messageKind role : String) (approvalId : Option String)
    (conversationSequence : Int) (content : List Char) : StoredMessage where
  id := id
  tenantId := "tenant"
  ticketId := "ticket"
  approvalId := approvalId
  conversationSequence := some conversationSequence
  messageKind := messageKind
  role := role
  content := content

def proposalMessage : StoredMessage :=
  historyMessage "m4" "action_proposal" "action" (some "approval") 4 ['d']

/-- A proposal is published behind the answer of its run, and its update after the decision. -/
def proposalConversation : List StoredMessage :=
  [historyMessage "m1" "customer" "user" none 1 (List.replicate 3599 'a'),
    historyMessage "m2" "customer" "user" none 2 ['b'],
    historyMessage "m3" "assistant" "assistant" (some "approval") 3 ['c'],
    proposalMessage,
    historyMessage "m5" "action_update" "action" (some "approval") 5 ['e']]

theorem proposalConversation_distinct :
    (proposalConversation.map fun message => message.id).Nodup := by decide

theorem proposalConversation_identified :
    ∀ message ∈ proposalConversation, message.id ≠ "" := by
  have named : "" ∉ proposalConversation.map fun message => message.id := by decide
  intro message member empty
  exact named (List.mem_map.mpr ⟨message, member, empty⟩)

theorem proposalConversation_sequenced :
    ∀ message ∈ proposalConversation, ∀ other ∈ proposalConversation,
      message.ticketId = other.ticketId →
      message.conversationSequence = other.conversationSequence →
      message.conversationSequence ≠ none → message = other := by
  intro message member other otherMember _ same _
  have numbered : (proposalConversation.map fun message => message.conversationSequence).Nodup := by
    decide
  exact List.inj_on_of_nodup_map numbered member otherMember same

def proposalMessages : StoredMessages where
  messages := proposalConversation
  distinct := proposalConversation_distinct
  identified := proposalConversation_identified
  sequenced := proposalConversation_sequenced

def messageAt (conversationSequence : Int) : CurrentMessage where
  tenantId := "tenant"
  ticketId := "ticket"
  conversationSequence := conversationSequence

/-- The ids that are selected and those that are omitted, with the referent. -/
def historyReport (result : Except ContextRaise (List HistoryItem × List HistoryOmission)) :
    Option (List String × List String × Option String) :=
  result.toOption.map fun found =>
    (found.1.map HistoryItem.messageId, found.2.map HistoryOmission.messageId,
      recentActionMessageApprovalId found.1)

theorem proposalConversation_report :
    historyReport (selectClassificationContext id proposalMessages.messages (messageAt 6)) =
      some (["m2", "m3", "m5"], ["m1"], some "approval") := by
  decide +kernel

theorem selectClassificationContext_spec_update :
    ∃ selected omitted,
      selectClassificationContext id proposalMessages.messages (messageAt 6) =
          .ok (selected, omitted) ∧
        SelectsHistory (visibleItems id proposalMessages.messages (messageAt 6)) selected omitted ∧
        historyReport (.ok (selected, omitted)) =
          some (["m2", "m3", "m5"], ["m1"], some "approval") := by
  have report := proposalConversation_report
  rcases selectClassificationContext_spec id proposalMessages (messageAt 6) with
    ⟨_, raised⟩ | ⟨_, _, raised⟩ | ⟨_, _, selected, omitted, returned, selects⟩
  · rw [raised] at report
    cases report
  · rw [raised] at report
    cases report
  · rw [returned] at report
    exact ⟨selected, omitted, returned, selects, report⟩

/-- The proposal stands before the current message, and it is neither selected nor omitted. -/
theorem selectClassificationContext_proposal :
    proposalMessage ∈ proposalMessages.messages ∧ shownContent id proposalMessage.historyRow ≠ [] ∧
      historyReport (selectClassificationContext id proposalMessages.messages (messageAt 6)) =
        some (["m2", "m3", "m5"], ["m1"], some "approval") := by
  refine ⟨?_, by decide, proposalConversation_report⟩
  exact .tail _ (.tail _ (.tail _ (.head _)))

end ClassificationHistory

end SupportGuard
