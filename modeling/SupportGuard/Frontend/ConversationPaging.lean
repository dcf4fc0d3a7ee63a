import Mathlib.Data.Prod.Lex
import SupportGuard.Foundation.Calendar
import SupportGuard.Foundation.KeysetPage
import SupportGuard.Foundation.PyConversion

/-! # Paging through the conversations

The server is `list_conversations` of `endpoints/conversations.py`, the client `loadList` of
`useConversationQuery.ts`. A cursor is the id of a conversation, and that conversation may move up
before the next page is asked for. What stays where it is, is not lost. -/

namespace SupportGuard

open Foundation

namespace ConversationPaging

/-! ## The server -/

structure Conversation where
  id : String
  customerId : String
  title : Option String
  lastMessageAt : Instant
  messages : List String
deriving DecidableEq

/-- By what conversations are ordered: the time of the last message, then the id. -/
def Conversation.key (conversation : Conversation) : Instant ×ₗ String :=
  toLex (conversation.lastMessageAt, conversation.id)

/-- The conversations, whose ids are a primary key. -/
structure ConversationStore where
  conversations : List Conversation
  distinct : (conversations.map Conversation.id).Nodup

/-- A limit that the server accepts. -/
structure PageLimit where
  value : Nat
  positive : 1 ≤ value
  bounded : value ≤ 50

structure ListQuery where
  customerId : String
  query : Option String
  limit : PageLimit

structure ConversationItem where
  id : String
  title : String
  updatedAt : Instant
deriving DecidableEq

structure ConversationPage where
  items : List ConversationItem
  nextCursor : Option String
deriving DecidableEq

inductive ListRaise
  | cursorInvalid
deriving DecidableEq

def Conversation.item (conversation : Conversation) : ConversationItem where
  id := conversation.id
  title := if conversation.title.all (· = "") then "未命名对话" else conversation.title.getD ""
  updatedAt := conversation.lastMessageAt

def ConversationItem.key (item : ConversationItem) : Instant ×ₗ String :=
  toLex (item.updatedAt, item.id)

section

-- `ilike` is how the database compares a pattern with a text.
variable (ilike : String → String → Bool) (request : ListQuery)

/-- The filter of a query. -/
def ListQuery.finds (conversation : Conversation) : Bool :=
  conversation.customerId = request.customerId &&
    match request.query.filter (· ≠ "") with
    | none => true
    | some query =>
        let pattern := "%" ++ String.ofList (stripSpace query.toList) ++ "%"
        conversation.title.any (ilike pattern) || conversation.messages.any (ilike pattern)

/-- The conversations behind the cursor. -/
def ListQuery.behind (store : ConversationStore) (cursor : Option String) :
    Except ListRaise (Conversation → Bool) :=
  match cursor.filter (· ≠ "") with
  | none => .ok fun _ => true
  | some cursor =>
      match store.conversations.find? fun conversation =>
          conversation.id = cursor && conversation.customerId = request.customerId with
      | none => .error .cursorInvalid
      | some last => .ok fun conversation =>
          conversation.lastMessageAt < last.lastMessageAt ||
            (conversation.lastMessageAt = last.lastMessageAt && conversation.id < last.id)

/-- The first of the conversations that are selected, with the cursor of the next page. -/
def ListQuery.page (tickets : List Conversation) : ConversationPage :=
  let selected := KeysetPage.page Conversation.key request.limit.value tickets
  { items := selected.map Conversation.item
    nextCursor :=
      if KeysetPage.hasMore Conversation.key request.limit.value tickets then
        selected.getLast?.map Conversation.id
      else none }

/-- `list_conversations`. -/
def listConversations (store : ConversationStore) (cursor : Option String) :
    Except ListRaise ConversationPage := do
  let behind ← request.behind store cursor
  .ok (request.page (store.conversations.filter fun conversation =>
    request.finds ilike conversation && behind conversation))

/-! ## New messages -/

def Conversation.receive (conversation : Conversation) (time : Instant) (content : String) :
    Conversation :=
  { conversation with
    lastMessageAt := time
    messages := conversation.messages ++ [content] }

theorem receive_ids (conversations : List Conversation) (id : String) (time : Instant)
    (content : String) :
    (conversations.map fun conversation =>
      if conversation.id = id then conversation.receive time content else conversation).map
        Conversation.id = conversations.map Conversation.id := by
  rw [List.map_map]
  apply List.map_congr_left
  intro conversation _
  rw [Function.comp_apply]
  split
  · rfl
  · rfl

/-- A message of a conversation. -/
def ConversationStore.receive (store : ConversationStore) (id : String) (time : Instant)
    (content : String) : ConversationStore where
  conversations := store.conversations.map fun conversation =>
    if conversation.id = id then conversation.receive time content else conversation
  distinct := (receive_ids store.conversations id time content).symm ▸ store.distinct

/-! ## The client -/

def appendUniqueById (current incoming : List ConversationItem) : List ConversationItem :=
  current ++ incoming.filter fun item => item.id ∉ current.map ConversationItem.id

/-- What a response makes of the list on display. -/
def setList (current : ConversationPage) (append : Bool) (page : ConversationPage) :
    ConversationPage :=
  if append then
    { items := appendUniqueById current.items page.items
      nextCursor := page.nextCursor }
  else page

/-- The scan of a client: its list, and the response that is on its way. -/
structure ListScan where
  store : ConversationStore
  list : ConversationPage
  response : Option (Bool × ConversationPage)

inductive ScanMove
  /-- A message that makes its conversation the newest one. -/
  | message (id : String) (time : Instant) (content : String)
  | loadMore
  | arrive
deriving DecidableEq

namespace ListScan

/-- The first page is asked for. -/
def start (store : ConversationStore) : ListScan where
  store
  list := { items := [], nextCursor := none }
  response := (listConversations ilike request store none).toOption.map fun page => (false, page)

def move (scan : ListScan) : ScanMove → ListScan
  | .message id time content =>
      if scan.store.conversations.all (·.lastMessageAt < time) then
        { scan with store := scan.store.receive id time content }
      else scan
  | .loadMore =>
      if scan.response.isSome then scan
      else match scan.list.nextCursor.filter (· ≠ "") with
        | none => scan
        | some cursor =>
            match listConversations ilike request scan.store (some cursor) with
            | .error _ => scan
            | .ok page => { scan with response := some (true, page) }
  | .arrive =>
      match scan.response with
      | none => scan
      | some (append, page) =>
          { scan with list := setList scan.list append page, response := none }

def run (store : ConversationStore) (moves : List ScanMove) : ListScan :=
  moves.foldl (move ilike request) (start ilike request store)

/-- Nothing is on its way and there is no next page. -/
def Ended (scan : ListScan) : Prop :=
  scan.response = none ∧ scan.list.nextCursor = none

instance (scan : ListScan) : Decidable scan.Ended :=
  inferInstanceAs (Decidable (_ ∧ _))

/-- The list once the response has come. -/
def pending (scan : ListScan) : ConversationPage :=
  match scan.response with
  | none => scan.list
  | some (append, page) => setList scan.list append page

end ListScan

def ScanMove.messaged? : ScanMove → Option String
  | .message id _ _ => some id
  | .loadMore => none
  | .arrive => none

/-- The conversations that received messages. -/
def messaged (moves : List ScanMove) : List String :=
  moves.filterMap ScanMove.messaged?

variable {ilike : String → String → Bool} {request : ListQuery}

/-! ## Pages -/

section

variable {tickets : List Conversation}

theorem page_ids (request : ListQuery) (tickets : List Conversation) :
    (request.page tickets).items.map ConversationItem.id =
      (KeysetPage.page Conversation.key request.limit.value tickets).map Conversation.id := by
  rw [ListQuery.page, List.map_map]
  rfl

theorem page_distinct (distinct : (tickets.map Conversation.id).Nodup) :
    ((request.page tickets).items.map ConversationItem.id).Nodup := by
  rw [page_ids]
  exact KeysetPage.map_page_nodup distinct

theorem key_lt_of_le {conversation last : Conversation} (different : conversation.id ≠ last.id)
    (below : conversation.key ≤ last.key) : conversation.key < last.key := by
  apply lt_of_le_of_ne below
  intro same
  exact different (congrArg (fun key => (ofLex key).2) same)

theorem nextCursor_eq_some {cursor : String}
    (next : (request.page tickets).nextCursor = some cursor) :
    ∃ last, (KeysetPage.page Conversation.key request.limit.value tickets).getLast? = some last ∧
      last.id = cursor := by
  unfold ListQuery.page at next
  dsimp only at next
  split at next
  · exact Option.map_eq_some_iff.mp next
  · cases next

/-- A conversation is on the page, or it is behind the cursor of the next one. -/
theorem page_covers {conversation : Conversation} (member : conversation ∈ tickets) :
    conversation.id ∈ (request.page tickets).items.map ConversationItem.id ∨
      ∃ last ∈ tickets, (request.page tickets).nextCursor = some last.id ∧
        conversation.key < last.key := by
  rw [page_ids]
  by_cases onPage : conversation.id ∈
      (KeysetPage.page Conversation.key request.limit.value tickets).map Conversation.id
  · exact .inl onPage
  · right
    rcases @KeysetPage.mem_page_or_le _ _ _ Conversation.key _ _ _ request.limit.positive
      member with
      here | ⟨more, last, ends, below⟩
    · exact absurd (List.mem_map_of_mem here) onPage
    · have lastOnPage := List.mem_of_getLast? ends
      refine ⟨last, KeysetPage.page_subset lastOnPage, ?_, ?_⟩
      · rw [ListQuery.page, if_pos more, ends, Option.map_some]
      · apply key_lt_of_le _ below
        intro same
        exact onPage (same ▸ List.mem_map_of_mem lastOnPage)

/-- No item of the page is behind its cursor. -/
theorem page_cursor {cursor : String} (next : (request.page tickets).nextCursor = some cursor) :
    ∃ last ∈ tickets, last.id = cursor ∧
      ∀ item ∈ (request.page tickets).items, last.key ≤ item.key := by
  rcases nextCursor_eq_some next with ⟨last, ends, id⟩
  refine ⟨last, KeysetPage.page_subset (List.mem_of_getLast? ends), id, ?_⟩
  intro item member
  rcases List.mem_map.mp member with ⟨conversation, onPage, rfl⟩
  exact KeysetPage.last_le_of_mem_page ends onPage

def Descends (items : List ConversationItem) : Prop :=
  items.Pairwise fun left right => right.key < left.key

theorem page_descends (distinct : (tickets.map Conversation.id).Nodup) :
    Descends (request.page tickets).items := by
  have apart := @page_distinct request _ distinct
  rw [page_ids, List.nodup_iff_pairwise_ne, List.pairwise_map] at apart
  unfold Descends
  rw [ListQuery.page, List.pairwise_map]
  apply (apart.and (KeysetPage.page_sorted request.limit.value tickets)).imp
  intro left right both
  exact key_lt_of_le both.1.symm both.2

theorem mem_page {item : ConversationItem} (member : item ∈ (request.page tickets).items) :
    ∃ conversation ∈ tickets, item = conversation.item := by
  rcases List.mem_map.mp member with ⟨conversation, onPage, rfl⟩
  exact ⟨conversation, KeysetPage.page_subset onPage, rfl⟩

end

/-! ## Cursors -/

/-- The conversation of a cursor. -/
def Marks (request : ListQuery) (store : ConversationStore) (cursor : String)
    (last : Conversation) : Prop :=
  last ∈ store.conversations ∧ last.id = cursor ∧ last.customerId = request.customerId

variable {store : ConversationStore}

theorem Marks.unique {cursor : String} {last other : Conversation}
    (marks : Marks request store cursor last) (otherMarks : Marks request store cursor other) :
    other = last :=
  List.inj_on_of_nodup_map store.distinct otherMarks.1 marks.1
    (otherMarks.2.1.trans marks.2.1.symm)

/-- The conversations of a filter and a cursor. -/
def found (ilike : String → String → Bool) (request : ListQuery) (store : ConversationStore)
    (behind : Conversation → Bool) : List Conversation :=
  store.conversations.filter fun conversation =>
    request.finds ilike conversation && behind conversation

variable {behind : Conversation → Bool}

theorem mem_found {conversation : Conversation} : conversation ∈ found ilike request store behind ↔
      conversation ∈ store.conversations ∧ request.finds ilike conversation = true ∧
        behind conversation = true := by
  rw [found, List.mem_filter, Bool.and_eq_true]

theorem found_distinct (store : ConversationStore) (behind : Conversation → Bool) :
    ((found ilike request store behind).map Conversation.id).Nodup :=
  store.distinct.sublist (List.filter_sublist.map _)

theorem marks_of_found {last : Conversation} (member : last ∈ found ilike request store behind) :
    Marks request store last.id last := by
  rcases mem_found.mp member with ⟨stored, finds, _⟩
  rw [ListQuery.finds, Bool.and_eq_true, decide_eq_true_eq] at finds
  exact ⟨stored, rfl, finds.1⟩

theorem Marks.eq_of_found {cursor : String} {last other : Conversation}
    (marks : Marks request store cursor last) (member : other ∈ found ilike request store behind)
    (id : other.id = cursor) : other = last := by
  have otherMarks := marks_of_found member
  rw [id] at otherMarks
  exact marks.unique otherMarks

/-- The page behind a cursor begins below its conversation. -/
theorem listConversations_cursor {cursor : String} (nonempty : cursor ≠ "")
    {page : ConversationPage}
    (returned : listConversations ilike request store (some cursor) = .ok page) :
    ∃ last, Marks request store cursor last ∧
      page = request.page (found ilike request store fun conversation =>
        decide (conversation.key < last.key)) := by
  have sent : (some cursor).filter (fun text => decide (text ≠ "")) = some cursor := by
    simp [nonempty]
  unfold listConversations ListQuery.behind at returned
  rw [sent] at returned
  dsimp only at returned
  cases search : store.conversations.find? fun conversation =>
      conversation.id = cursor && conversation.customerId = request.customerId with
  | none =>
      rw [search] at returned
      cases returned
  | some last =>
      rw [search] at returned
      cases returned
      have both := List.find?_some search
      rw [Bool.and_eq_true, decide_eq_true_eq, decide_eq_true_eq] at both
      refine ⟨last, ⟨List.mem_of_find?_eq_some search, both.1, both.2⟩, ?_⟩
      congr 1
      apply List.filter_congr
      intro conversation _
      congr 1
      rw [Bool.eq_iff_iff, decide_eq_true_eq, Conversation.key, Conversation.key,
        Prod.Lex.toLex_lt_toLex]
      simp

/-! ## What a scan does -/

theorem appendUniqueById_ids (current incoming : List ConversationItem) :
    (appendUniqueById current incoming).map ConversationItem.id =
      current.map ConversationItem.id ++ (incoming.map ConversationItem.id).filter
        fun id => id ∉ current.map ConversationItem.id := by
  unfold appendUniqueById
  rw [List.map_append, List.filter_map]
  rfl

theorem mem_appendUniqueById {current incoming : List ConversationItem} {id : String} :
    id ∈ (appendUniqueById current incoming).map ConversationItem.id ↔
      id ∈ current.map ConversationItem.id ∨ id ∈ incoming.map ConversationItem.id := by
  rw [appendUniqueById_ids, List.mem_append, List.mem_filter, decide_eq_true_eq]
  tauto

theorem appendUniqueById_distinct {current incoming : List ConversationItem}
    (distinct : (current.map ConversationItem.id).Nodup)
    (incomingDistinct : (incoming.map ConversationItem.id).Nodup) :
    ((appendUniqueById current incoming).map ConversationItem.id).Nodup := by
  rw [appendUniqueById_ids, List.nodup_append]
  refine ⟨distinct, incomingDistinct.filter _, ?_⟩
  intro id member other otherMember same
  exact of_decide_eq_true (List.mem_filter.mp otherMember).2 (same ▸ member)

/-- A move is one of three: a message is stored, a next page is on its way, or it comes. -/
inductive Moves (ilike : String → String → Bool) (request : ListQuery) (scan : ListScan) :
    ScanMove → ListScan → Prop
  | idle (move : ScanMove) : Moves ilike request scan move scan
  | message (id : String) (time : Instant) (content : String)
      (newest : ∀ conversation ∈ scan.store.conversations, conversation.lastMessageAt < time) :
      Moves ilike request scan (.message id time content)
        { scan with store := scan.store.receive id time content }
  | loadMore (cursor : String) (page : ConversationPage) (last : Conversation)
      (settled : scan.response = none) (next : scan.list.nextCursor = some cursor)
      (marks : Marks request scan.store cursor last)
      (page_eq : page = request.page (found ilike request scan.store fun conversation =>
        decide (conversation.key < last.key))) :
      Moves ilike request scan .loadMore { scan with response := some (true, page) }
  | arrive : Moves ilike request scan .arrive
      { scan with list := scan.pending, response := none }

theorem move_moves (scan : ListScan) (move : ScanMove) :
    Moves ilike request scan move (scan.move ilike request move) := by
  cases move with
  | message id time content =>
      unfold ListScan.move
      dsimp only
      split
      · rename_i newest
        rw [List.all_eq_true] at newest
        exact .message id time content fun conversation member =>
          of_decide_eq_true (newest conversation member)
      · exact .idle _
  | loadMore =>
      unfold ListScan.move
      dsimp only
      split
      · exact .idle _
      · rename_i settled
        split
        · exact .idle _
        · rename_i cursor sent
          rw [Option.filter_eq_some_iff, decide_eq_true_eq] at sent
          split
          · exact .idle _
          · rename_i page returned
            rcases listConversations_cursor sent.2 returned with ⟨last, marks, page_eq⟩
            exact .loadMore cursor page last (Option.not_isSome_iff_eq_none.mp settled) sent.1
              marks page_eq
  | arrive =>
      cases arrived : scan.response with
      | none =>
          have same : scan.move ilike request .arrive = scan := by
            unfold ListScan.move
            dsimp only
            rw [arrived]
          rw [same]
          exact .idle _
      | some response =>
          have same : scan.move ilike request .arrive =
              { scan with list := scan.pending, response := none } := by
            unfold ListScan.move ListScan.pending
            dsimp only
            rw [arrived]
          rw [same]
          exact .arrive

theorem pending_of_settled {scan : ListScan} (settled : scan.response = none) :
    scan.pending = scan.list := by
  unfold ListScan.pending
  rw [settled]

/-- The page that is appended, on the list that is shown. -/
theorem pending_loadMore {scan : ListScan} (settled : scan.response = none)
    (page : ConversationPage) :
    ListScan.pending { scan with response := some (true, page) } =
      { items := appendUniqueById scan.pending.items page.items
        nextCursor := page.nextCursor } := by
  rw [pending_of_settled settled]
  rfl

/-! ## Nothing is lost -/

/-- The conversations that no message has touched: they are as they were, and each one that is
looked for is in the list or behind its cursor. -/
structure Reaches (ilike : String → String → Bool) (request : ListQuery)
    (initial : ConversationStore) (touched : List String) (scan : ListScan) : Prop where
  distinct : (scan.pending.items.map ConversationItem.id).Nodup
  kept : ∀ conversation ∈ initial.conversations, conversation.id ∉ touched →
    conversation ∈ scan.store.conversations
  covered : ∀ conversation ∈ initial.conversations, conversation.id ∉ touched →
    request.finds ilike conversation = true →
    conversation.id ∈ scan.pending.items.map ConversationItem.id ∨
      ∃ cursor last, scan.pending.nextCursor = some cursor ∧
        Marks request scan.store cursor last ∧ conversation.key < last.key

theorem Reaches.start (initial : ConversationStore) :
    Reaches ilike request initial [] (ListScan.start ilike request initial) := by
  have pending : (ListScan.start ilike request initial).pending =
      request.page (found ilike request initial fun _ => true) := rfl
  constructor
  · rw [pending]
    exact page_distinct (found_distinct _ _)
  · exact fun conversation member _ => member
  · intro conversation member _ finds
    rw [pending]
    rcases @page_covers request (found ilike request initial fun _ => true) _
        (mem_found.mpr ⟨member, finds, rfl⟩) with
      listed | ⟨last, lastFound, next, below⟩
    · exact .inl listed
    · exact .inr ⟨last.id, last, next, marks_of_found lastFound, below⟩

/-- The conversation of a cursor only moves up. -/
theorem Marks.receive {cursor : String} {last : Conversation}
    (marks : Marks request store cursor last) {id : String} {time : Instant} {content : String}
    (newest : ∀ conversation ∈ store.conversations, conversation.lastMessageAt < time) :
    ∃ later, Marks request (store.receive id time content) cursor later ∧
      last.key ≤ later.key := by
  rcases marks with ⟨stored, lastId, customer⟩
  have moved := List.mem_map_of_mem (f := fun conversation : Conversation =>
    if conversation.id = id then conversation.receive time content else conversation) stored
  by_cases same : last.id = id
  · rw [if_pos same] at moved
    refine ⟨last.receive time content, ⟨moved, lastId, customer⟩, ?_⟩
    exact (Prod.Lex.toLex_lt_toLex.mpr (.inl (newest last stored))).le
  · rw [if_neg same] at moved
    exact ⟨last, ⟨moved, lastId, customer⟩, le_refl _⟩

theorem mem_receive {conversation : Conversation} (member : conversation ∈ store.conversations)
    {id : String} (other : conversation.id ≠ id) (time : Instant) (content : String) :
    conversation ∈ (store.receive id time content).conversations := by
  have moved := List.mem_map_of_mem (f := fun conversation : Conversation =>
    if conversation.id = id then conversation.receive time content else conversation) member
  rwa [if_neg other] at moved

theorem Reaches.move {initial : ConversationStore} {touched : List String} {scan : ListScan}
    (reaches : Reaches ilike request initial touched scan) (move : ScanMove) :
    Reaches ilike request initial (touched ++ move.messaged?.toList)
      (scan.move ilike request move) := by
  have moves := @move_moves ilike request scan move
  generalize scan.move ilike request move = later at moves
  have untouched {id : String} (new : id ∉ touched ++ move.messaged?.toList) : id ∉ touched :=
    fun old => new (List.mem_append_left _ old)
  cases moves with
  | idle =>
      exact ⟨reaches.distinct,
        fun conversation member new => reaches.kept conversation member (untouched new),
        fun conversation member new => reaches.covered conversation member (untouched new)⟩
  | message id time content newest =>
      refine ⟨reaches.distinct, ?_, ?_⟩
      · intro conversation member new
        apply mem_receive (reaches.kept conversation member (untouched new))
        intro same
        exact new (List.mem_append_right _ (List.mem_singleton.mpr same))
      · intro conversation member new finds
        rcases reaches.covered conversation member (untouched new) finds with
          listed | ⟨cursor, last, next, marks, below⟩
        · exact .inl listed
        · rcases marks.receive newest with ⟨moved, movedMarks, above⟩
          exact .inr ⟨cursor, moved, next, movedMarks, below.trans_le above⟩
  | loadMore cursor page last settled next marks page_eq =>
      have pending := pending_loadMore settled page
      constructor
      · rw [pending]
        apply appendUniqueById_distinct reaches.distinct
        rw [page_eq]
        exact page_distinct (found_distinct _ _)
      · exact fun conversation member new => reaches.kept conversation member (untouched new)
      · intro conversation member new finds
        rw [pending, mem_appendUniqueById]
        rcases reaches.covered conversation member (untouched new) finds with
          listed | ⟨cursor', last', next', marks', below⟩
        · exact .inl (.inl listed)
        · rw [pending_of_settled settled, next, Option.some.injEq] at next'
          rw [← next'] at marks'
          rw [marks.unique marks'] at below
          have stored := reaches.kept conversation member (untouched new)
          rw [page_eq]
          have behind : conversation ∈ found ilike request scan.store fun other =>
              decide (other.key < last.key) :=
            mem_found.mpr ⟨stored, finds, decide_eq_true below⟩
          rcases @page_covers request _ _ behind with
            listed | ⟨end', endFound, endNext, endBelow⟩
          · exact .inl (.inr listed)
          · exact .inr ⟨end'.id, end', endNext, marks_of_found endFound, endBelow⟩
  | arrive =>
      exact ⟨reaches.distinct,
        fun conversation member new => reaches.kept conversation member (untouched new),
        fun conversation member new => reaches.covered conversation member (untouched new)⟩

theorem Reaches.run (initial : ConversationStore) (moves : List ScanMove) :
    Reaches ilike request initial (messaged moves)
      (ListScan.run ilike request initial moves) := by
  induction moves using List.reverseRecOn with
  | nil => exact Reaches.start initial
  | append_singleton moves move induction =>
      have touched : messaged (moves ++ [move]) = messaged moves ++ move.messaged?.toList := by
        rw [messaged, List.filterMap_append]
        rfl
      have ran : ListScan.run ilike request initial (moves ++ [move]) =
          (ListScan.run ilike request initial moves).move ilike request move :=
        List.foldl_concat ..
      rw [touched, ran]
      exact induction.move move

/-! ## The order -/

/-- Without messages, the list descends to its cursor. -/
structure InOrder (request : ListQuery) (scan : ListScan) : Prop where
  descends : Descends scan.pending.items
  above : ∀ cursor last, scan.pending.nextCursor = some cursor →
    Marks request scan.store cursor last → ∀ item ∈ scan.pending.items, last.key ≤ item.key

theorem InOrder.start (initial : ConversationStore) :
    InOrder request (ListScan.start ilike request initial) := by
  have pending : (ListScan.start ilike request initial).pending =
      request.page (found ilike request initial fun _ => true) := rfl
  constructor
  · rw [pending]
    exact page_descends (found_distinct _ _)
  · rw [pending]
    intro cursor last next marks
    rcases page_cursor next with ⟨last', lastFound, id, above⟩
    rw [marks.eq_of_found lastFound id] at above
    exact above

theorem InOrder.move {scan : ListScan} (inOrder : InOrder request scan) {move : ScanMove}
    (silent : move.messaged? = none) : InOrder request (scan.move ilike request move) := by
  have moves := @move_moves ilike request scan move
  generalize scan.move ilike request move = later at moves
  cases moves with
  | idle => exact inOrder
  | message id time content newest => cases silent
  | arrive => exact ⟨inOrder.descends, inOrder.above⟩
  | loadMore cursor page last settled next marks page_eq =>
      have pending := pending_loadMore settled page
      have before : scan.pending.nextCursor = some cursor := by
        rw [pending_of_settled settled, next]
      have below : ∀ item ∈ page.items, item.key < last.key := by
        intro item member
        rw [page_eq] at member
        rcases mem_page member with ⟨conversation, conversationFound, rfl⟩
        exact of_decide_eq_true (mem_found.mp conversationFound).2.2
      constructor
      · rw [pending]
        unfold Descends appendUniqueById
        rw [List.pairwise_append]
        refine ⟨inOrder.descends, ?_, ?_⟩
        · have descends := @page_descends request _
            (@found_distinct ilike request scan.store fun conversation =>
              decide (conversation.key < last.key))
          rw [← page_eq] at descends
          exact descends.sublist List.filter_sublist
        · intro left leftMember right rightMember
          exact (below right (List.mem_filter.mp rightMember).1).trans_le
            (inOrder.above cursor last before marks left leftMember)
      · rw [pending]
        intro cursor' last' next' marks' item member
        dsimp only at next' member
        rw [page_eq] at next'
        rcases page_cursor next' with ⟨bottom, bottomFound, id, above⟩
        rw [marks'.eq_of_found bottomFound id] at above
        rcases List.mem_append.mp member with old | new
        · have bottomBelow : last'.key < last.key := by
            rw [← marks'.eq_of_found bottomFound id]
            exact of_decide_eq_true (mem_found.mp bottomFound).2.2
          exact bottomBelow.le.trans (inOrder.above cursor last before marks item old)
        · rw [page_eq] at new
          exact above item (List.mem_filter.mp new).1

theorem InOrder.run (initial : ConversationStore) {moves : List ScanMove}
    (silent : messaged moves = []) :
    InOrder request (ListScan.run ilike request initial moves) := by
  induction moves using List.reverseRecOn with
  | nil => exact InOrder.start initial
  | append_singleton moves move induction =>
      rw [messaged, List.filterMap_append, List.append_eq_nil_iff] at silent
      have ran : ListScan.run ilike request initial (moves ++ [move]) =
          (ListScan.run ilike request initial moves).move ilike request move :=
        List.foldl_concat ..
      rw [ran]
      apply (induction silent.1).move
      cases named : move.messaged? with
      | none => rfl
      | some id => simp [named] at silent

/-- When a scan ends, each conversation that it looks for and that received no message is in the
list once, and without messages the list descends. -/
theorem scan_loses_none (ilike : String → String → Bool) (request : ListQuery)
    (store : ConversationStore) (moves : List ScanMove)
    (ended : (ListScan.run ilike request store moves).Ended) :
    (∀ conversation ∈ store.conversations, request.finds ilike conversation = true →
      conversation.id ∉ messaged moves →
      ((ListScan.run ilike request store moves).list.items.map ConversationItem.id).count
        conversation.id = 1) ∧
      (messaged moves = [] →
        Descends (ListScan.run ilike request store moves).list.items) := by
  have shown := pending_of_settled ended.1
  constructor
  · intro conversation member finds silent
    have reaches := @Reaches.run ilike request store moves
    have distinct := reaches.distinct
    have covered := reaches.covered conversation member silent finds
    rw [shown] at distinct covered
    rcases covered with listed | ⟨cursor, last, next, _⟩
    · exact List.count_eq_one_of_mem distinct listed
    · rw [ended.2] at next
      cases next
  · intro silent
    rw [← shown]
    exact (InOrder.run store silent).descends

end

/-! Three conversations, one to a page. The first one of a page gets a message before the next
page is asked for. -/

def threeConversations : List Conversation :=
  [⟨"a", "customer", none, ⟨2000, Instant.twoMilliseconds_inRange⟩, []⟩,
    ⟨"b", "customer", none, ⟨2000, Instant.twoMilliseconds_inRange⟩, []⟩,
    ⟨"c", "customer", none, ⟨0, Instant.first_inRange⟩, []⟩]

theorem threeConversations_distinct : (threeConversations.map Conversation.id).Nodup := by
  decide

theorem one_accepted : 1 ≤ 1 ∧ 1 ≤ 50 := by
  decide

def byOne : ListQuery where
  customerId := "customer"
  query := none
  limit := ⟨1, one_accepted.1, one_accepted.2⟩

def interruptedScan : List ScanMove :=
  [.arrive, .message "b" ⟨30000000, Instant.halfMinute_inRange⟩ "again", .loadMore, .arrive,
    .loadMore, .arrive]

theorem interruptedScan_ended : (ListScan.run (fun _ _ => true) byOne
    ⟨threeConversations, threeConversations_distinct⟩ interruptedScan).Ended := by
  decide +kernel

theorem scan_loses_none_interrupted :
    (∀ conversation ∈ threeConversations,
      byOne.finds (fun _ _ => true) conversation = true →
      conversation.id ∉ messaged interruptedScan →
      ((ListScan.run (fun _ _ => true) byOne ⟨threeConversations, threeConversations_distinct⟩
        interruptedScan).list.items.map ConversationItem.id).count conversation.id = 1) ∧
      (messaged interruptedScan = [] →
        Descends (ListScan.run (fun _ _ => true) byOne
          ⟨threeConversations, threeConversations_distinct⟩ interruptedScan).list.items) :=
  scan_loses_none (fun _ _ => true) byOne ⟨threeConversations, threeConversations_distinct⟩
    interruptedScan interruptedScan_ended

end ConversationPaging

end SupportGuard
