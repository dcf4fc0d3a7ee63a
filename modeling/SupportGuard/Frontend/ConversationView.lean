import Mathlib.Data.List.Induction
import Mathlib.Data.List.Sort

/-! # The turns of a conversation on display

`pagination.ts` and `useConversationQuery.ts`: a refresh merges the newest turns into those
on display, and older turns are put in front of them. The server is
`endpoints/conversations.py`. -/

namespace SupportGuard

/-! ## Lists without repeated ids -/

section Pagination

variable {α : Type} (id : α → String)

def prependUniqueById (current incoming : List α) : List α :=
  let incomingIds := incoming.map id
  incoming ++ current.filter fun item => !incomingIds.contains (id item)

/-- A map keeps the last of the items with an id. -/
def mergeUniqueById (current incoming : List α) : List α :=
  current.map (fun item => (incoming.reverse.find? (id · == id item)).getD item) ++
    incoming.filter fun item => !current.any (id · == id item)

variable {id} {current incoming seen new : List α}

theorem prependUniqueById_eq (apart : ∀ item ∈ current, id item ∉ incoming.map id) :
    prependUniqueById id current incoming = incoming ++ current := by
  have kept : (current.filter fun item => !(incoming.map id).contains (id item)) = current := by
    rw [List.filter_eq_self]
    intro item member
    simpa using apart item member
  simp only [prependUniqueById, kept]

/-- Items that are on display already stay where they are, new ones come behind. -/
theorem mergeUniqueById_eq (identified : ∀ item ∈ current, ∀ other ∈ seen ++ new,
      id other = id item → other = item)
    (shown : seen ⊆ current) (apart : ∀ item ∈ new, id item ∉ current.map id) :
    mergeUniqueById id current (seen ++ new) = current ++ new := by
  have same : (current.map fun item =>
      ((seen ++ new).reverse.find? (id · == id item)).getD item) =
        current.map fun item => item := by
    apply List.map_congr_left
    intro item member
    cases found : (seen ++ new).reverse.find? (id · == id item) with
    | none => rfl
    | some other =>
        have known : other ∈ seen ++ new := List.mem_reverse.mp (List.mem_of_find?_eq_some found)
        exact identified item member other known (by simpa using List.find?_some found)
  have old : (seen.filter fun item => !current.any (id · == id item)) = [] := by
    rw [List.filter_eq_nil_iff]
    intro item member
    simpa using ⟨item, shown member, rfl⟩
  have kept : (new.filter fun item => !current.any (id · == id item)) = new := by
    rw [List.filter_eq_self]
    intro item member
    simpa using apart item member
  rw [mergeUniqueById, same, List.map_id', List.filter_append, old, kept, List.nil_append]

end Pagination

/-! ## The server -/

structure TurnView where
  id : String
  ordinal : Nat
deriving DecidableEq

/-- What the client keeps of a conversation. -/
structure ConversationDetail where
  turns : List TurnView
  nextBeforeOrdinal : Option Nat
deriving DecidableEq

/-- `get_conversation` with its default `turn_limit`. -/
def getConversation (turns : List TurnView) (beforeTurn : Option Nat) :
    ConversationDetail :=
  let eligible := turns.filter fun turn => beforeTurn.all fun before => turn.ordinal < before
  let selected := eligible.drop (eligible.length - 50)
  { turns := selected
    nextBeforeOrdinal :=
      if selected.length < eligible.length then selected.head?.map TurnView.ordinal
      else none }

/-! ## The client -/

/-- The state of `useConversationQuery` while one conversation is selected. -/
structure ConversationQuery where
  conversation : Option ConversationDetail := none
  requestEpoch : Nat := 0
  olderLoading : Bool := false

/-- A request in flight. Only a refresh belongs to an epoch. -/
structure PageRequest where
  number : Nat
  before : Option Nat
  prepend : Bool
  requestEpoch : Option Nat
  /-- The response, once the server has made it. -/
  page : Option ConversationDetail := none

namespace ConversationQuery

/-- The part of `loadConversation` up to the request. -/
def startLoad (query : ConversationQuery) (number : Nat) (before : Option Nat) (prepend : Bool) :
    ConversationQuery × PageRequest :=
  match before with
  | none =>
      ({ query with requestEpoch := query.requestEpoch + 1 },
        { number, before, prepend, requestEpoch := some (query.requestEpoch + 1) })
  | some _ => (query, { number, before, prepend, requestEpoch := none })

/-- What a page makes of the conversation on display. -/
def setConversation (current : Option ConversationDetail) (page : ConversationDetail)
    (prepend : Bool) : ConversationDetail :=
  match current with
  | none => page
  | some current =>
      if prepend then
        { turns := prependUniqueById TurnView.id current.turns page.turns
          nextBeforeOrdinal := page.nextBeforeOrdinal }
      else
        { turns := (mergeUniqueById TurnView.id current.turns page.turns).insertionSort
            fun left right => left.ordinal ≤ right.ordinal
          nextBeforeOrdinal := current.nextBeforeOrdinal }

/-- A response counts unless a refresh was started after this one. -/
def isCurrent (query : ConversationQuery) (request : PageRequest) : Bool :=
  request.requestEpoch.all (query.requestEpoch = ·)

/-- The part of `loadConversation` from the response on. -/
def finishLoad (query : ConversationQuery) (request : PageRequest) (page : ConversationDetail) :
    ConversationQuery :=
  if query.isCurrent request then
    { query with conversation := some (setConversation query.conversation page request.prepend) }
  else query

/-- The cursor that `loadOlderTurns` goes on from, when it does. -/
def olderCursor (query : ConversationQuery) : Option Nat :=
  if query.olderLoading then none
  else query.conversation.bind fun detail => detail.nextBeforeOrdinal.filter (· ≠ 0)

end ConversationQuery

/-! ## Interleavings -/

structure ConversationView where
  server : List TurnView := []
  query : ConversationQuery := {}
  started : Nat := 0
  requests : List PageRequest := []
  /-- The newest ordinal of the last refresh that was applied. -/
  refreshed : Nat := 0

inductive ViewMove
  | newTurn (id : String)
  | refresh
  | loadOlder
  /-- The server answers a request. -/
  | serve (number : Nat)
  /-- A response arrives. -/
  | arrive (number : Nat)
  /-- A request fails, or is aborted. -/
  | fail (number : Nat)
deriving DecidableEq

/-- The newest ordinal of a page. -/
def ConversationDetail.newest (page : ConversationDetail) : Nat :=
  (page.turns.getLast?.map TurnView.ordinal).getD 0

namespace ConversationView

def request (view : ConversationView) (number : Nat) : Option PageRequest :=
  view.requests.find? (·.number = number)

def start (view : ConversationView) (query : ConversationQuery) (before : Option Nat)
    (prepend : Bool) : ConversationView :=
  let (query, request) := query.startLoad view.started before prepend
  { view with query, started := view.started + 1, requests := request :: view.requests }

/-- A request is over. `loadOlderTurns` takes its mark away however it ends. -/
def close (view : ConversationView) (request : PageRequest) (query : ConversationQuery) :
    ConversationView :=
  { view with
    query := { query with olderLoading := query.olderLoading && !request.prepend }
    requests := view.requests.filter fun other => other.number ≠ request.number }

def move (view : ConversationView) : ViewMove → ConversationView
  | .newTurn id =>
      if view.server.any (·.id = id) then view
      else { view with server := view.server ++ [{ id, ordinal := view.server.length + 1 }] }
  | .refresh => view.start view.query none false
  | .loadOlder =>
      match view.query.olderCursor with
      | none => view
      | some before => view.start { view.query with olderLoading := true } (some before) true
  | .serve number =>
      { view with
        requests := view.requests.map fun request =>
          if request.number = number ∧ request.page = none then
            { request with page := some (getConversation view.server request.before) }
          else request }
  | .arrive number =>
      match view.request number with
      | none => view
      | some request =>
          match request.page with
          | none => view
          | some page =>
              let applied := view.close request (view.query.finishLoad request page)
              if view.query.isCurrent request ∧ request.prepend = false then
                { applied with refreshed := page.newest }
              else applied
  | .fail number =>
      match view.request number with
      | none => view
      | some request => view.close request view.query

/-- A conversation is opened, and then whatever happens. -/
def run (moves : List ViewMove) : ConversationView :=
  moves.foldl move {}

end ConversationView

/-! ## The display -/

/-- The turns on display have no holes, and the cursor is where they begin. -/
structure NoHoles (detail : ConversationDetail) (newest : Nat) : Prop where
  contiguous : ∃ first, detail.turns.map TurnView.ordinal =
    List.range' first detail.turns.length
  upToDate : detail.newest = newest
  cursor : detail.nextBeforeOrdinal = detail.turns.head?.map TurnView.ordinal ∨
    detail.nextBeforeOrdinal = none ∧ ∀ turn ∈ detail.turns.head?, turn.ordinal = 1

/-- A refresh that is applied to a display reaches back to what is on it. -/
def Timely (view : ConversationView) (move : ViewMove) : Prop :=
  ∀ number request page detail, move = .arrive number → view.request number = some request →
    request.page = some page → view.query.isCurrent request = true → request.prepend = false →
    view.query.conversation = some detail → page.newest ≤ view.refreshed + 50

/-! ## Stretches of the conversation -/

/-- The turns behind the first `low`, up to the one at `high`. -/
def stretch (turns : List TurnView) (low high : Nat) : List TurnView :=
  (turns.take high).drop low

/-- Turns are numbered from 1 on, and no two share an id. -/
structure Numbered (turns : List TurnView) : Prop where
  ordinals : turns.map TurnView.ordinal = List.range' 1 turns.length
  ids : (turns.map TurnView.id).Nodup

/-- The cursor of a display that leaves out the first turns. -/
def cursorAfter (low : Nat) : Option Nat :=
  if low = 0 then none else some (low + 1)

/-- The page that ends with a turn. -/
def pageUpTo (turns : List TurnView) (count : Nat) : ConversationDetail :=
  { turns := stretch turns (count - 50) count
    nextBeforeOrdinal := cursorAfter (count - 50) }

section Stretches

variable {turns : List TurnView} {low middle high : Nat}

theorem stretch_append (below : low ≤ middle) (above : middle ≤ high)
    (short : high ≤ turns.length) :
    stretch turns low middle ++ stretch turns middle high = stretch turns low high := by
  have whole : turns.take high = turns.take middle ++ (turns.take high).drop middle := by
    have parts := List.take_append_drop middle (turns.take high)
    rw [List.take_take, Nat.min_eq_left above] at parts
    exact parts.symm
  have enough : low ≤ (turns.take middle).length := by
    rw [List.length_take]
    omega
  rw [stretch, stretch, stretch, ← List.drop_append_of_le_length enough, ← whole]

theorem length_stretch (short : high ≤ turns.length) :
    (stretch turns low high).length = high - low := by
  rw [stretch, List.length_drop, List.length_take, Nat.min_eq_left short]

/-- New turns change nothing of the old ones. -/
theorem stretch_grown (later : List TurnView) (short : high ≤ turns.length) :
    stretch (turns ++ later) low high = stretch turns low high := by
  rw [stretch, stretch, List.take_append_of_le_length short]

theorem mem_of_mem_stretch {turn : TurnView} (member : turn ∈ stretch turns low high) :
    turn ∈ turns :=
  List.mem_of_mem_take (List.mem_of_mem_drop member)

theorem Numbered.stretch_ordinals (numbered : Numbered turns) (short : high ≤ turns.length) :
    (stretch turns low high).map TurnView.ordinal = List.range' (low + 1) (high - low) := by
  rw [stretch, List.map_drop, List.map_take, numbered.ordinals,
    List.take_range'_of_length_ge short, List.drop_range']
  congr 1
  omega

theorem Numbered.mem_stretch (numbered : Numbered turns) (short : high ≤ turns.length)
    {turn : TurnView} (member : turn ∈ stretch turns low high) :
    low < turn.ordinal ∧ turn.ordinal ≤ high := by
  have counted : turn.ordinal ∈ (stretch turns low high).map TurnView.ordinal :=
    List.mem_map_of_mem member
  rw [numbered.stretch_ordinals short, List.mem_range'_1] at counted
  omega

theorem Numbered.newest_stretch (numbered : Numbered turns) (short : high ≤ turns.length)
    (low_le : low = 0 ∨ low < high) (nextBefore : Option Nat) :
    (ConversationDetail.mk (stretch turns low high) nextBefore).newest = high := by
  rw [ConversationDetail.newest, ← List.getLast?_map, numbered.stretch_ordinals short,
    List.getLast?_range']
  split
  · simp only [Option.getD_none]
    omega
  · simp only [Option.getD_some]
    omega

theorem Numbered.head_stretch (numbered : Numbered turns) (short : high ≤ turns.length)
    (low : Nat) :
    (stretch turns low high).head?.map TurnView.ordinal =
      if high - low = 0 then none else some (low + 1) := by
  rw [← List.head?_map, numbered.stretch_ordinals short, List.head?_range']

/-- Different stretches have different ids. -/
theorem Numbered.stretch_apart {first last : Nat} (numbered : Numbered turns)
    (behind : high ≤ first) {turn : TurnView} (member : turn ∈ stretch turns first last) :
    turn.id ∉ (stretch turns low high).map TurnView.id := by
  have later : turn ∈ turns.drop high := by
    have skipped : turn ∈ turns.drop first := by
      rw [stretch, List.drop_take] at member
      exact List.mem_of_mem_take member
    rw [show first = high + (first - high) by omega, ← List.drop_drop] at skipped
    exact List.mem_of_mem_drop skipped
  have parts := numbered.ids
  rw [← List.take_append_drop high turns, List.map_append, List.nodup_append] at parts
  intro shown
  rw [List.mem_map] at shown
  obtain ⟨other, earlier, same⟩ := shown
  exact parts.2.2 other.id (List.mem_map_of_mem (List.mem_of_mem_drop earlier)) turn.id
    (List.mem_map_of_mem later) same

theorem Numbered.eq_of_id (numbered : Numbered turns) {turn other : TurnView}
    (member : turn ∈ turns) (member' : other ∈ turns) (same : turn.id = other.id) :
    turn = other :=
  List.inj_on_of_nodup_map numbered.ids member member' same

/-- Turns that stand as they do on the server are sorted. -/
theorem Numbered.sorted (numbered : Numbered turns) {part : List TurnView}
    (part_of : part.Sublist turns) :
    part.insertionSort (fun left right => left.ordinal ≤ right.ordinal) = part := by
  apply List.Pairwise.insertionSort_eq
  have ordered : (turns.map TurnView.ordinal).Pairwise (· ≤ ·) := by
    rw [numbered.ordinals]
    exact List.pairwise_le_range'
  exact (List.pairwise_map.mp ordered).sublist part_of

theorem stretch_sublist_take : (stretch turns low high).Sublist (turns.take high) :=
  List.drop_sublist _ _

theorem stretch_sublist_drop (below : middle ≤ low) :
    (stretch turns low high).Sublist (turns.drop middle) := by
  have later : turns.drop low = (turns.drop middle).drop (low - middle) := by
    rw [List.drop_drop]
    congr 1
    omega
  rw [stretch, List.drop_take, later]
  exact (List.take_sublist _ _).trans (List.drop_sublist _ _)

/-! ### What the server sends -/

/-- The last fifty of the eligible turns. -/
theorem Numbered.page_eq (numbered : Numbered turns) {count : Nat} (short : count ≤ turns.length) :
    (if ((turns.take count).drop (count - 50)).length < (turns.take count).length then
        ((turns.take count).drop (count - 50)).head?.map TurnView.ordinal
      else none) = cursorAfter (count - 50) := by
  rw [cursorAfter, List.length_drop, List.length_take, Nat.min_eq_left short]
  by_cases few : count ≤ 50
  · rw [if_neg (by omega), if_pos (by omega)]
  · rw [if_pos (by omega), if_neg (by omega)]
    have first := numbered.head_stretch short (count - 50)
    rw [if_neg (by omega)] at first
    exact first

theorem Numbered.getConversation_newest (numbered : Numbered turns) {count : Nat}
    (short : count ≤ turns.length) :
    getConversation (turns.take count) none =
      pageUpTo turns count := by
  have all : ((turns.take count).filter fun turn =>
      (none : Option Nat).all fun before => turn.ordinal < before) = turns.take count := by
    simp
  have length : (turns.take count).length = count := by
    rw [List.length_take, Nat.min_eq_left short]
  have page := numbered.page_eq short
  rw [length] at page
  simp only [getConversation, all, length, page, pageUpTo, stretch]

theorem Numbered.filter_ordinal (numbered : Numbered turns) (short : low ≤ turns.length) :
    (turns.filter fun turn => (some (low + 1)).all fun before => turn.ordinal < before) =
      turns.take low := by
  have earlier : ((turns.take low).filter fun turn =>
      (some (low + 1)).all fun before => turn.ordinal < before) = turns.take low := by
    rw [List.filter_eq_self]
    intro turn member
    have shown : turn ∈ stretch turns 0 low := member
    have counted : turn.ordinal ≤ low := (numbered.mem_stretch short shown).2
    simpa using by omega
  have later : ((turns.drop low).filter fun turn =>
      (some (low + 1)).all fun before => turn.ordinal < before) = [] := by
    rw [List.filter_eq_nil_iff]
    intro turn member
    rw [← List.take_length (l := turns)] at member
    have counted : low < turn.ordinal := (numbered.mem_stretch (le_refl _) member).1
    simpa using by omega
  have parts := congrArg (List.filter fun turn =>
    (some (low + 1)).all fun before => decide (turn.ordinal < before))
    (List.take_append_drop low turns)
  rw [List.filter_append, earlier, later, List.append_nil] at parts
  exact parts.symm

theorem Numbered.getConversation_before (numbered : Numbered turns) (short : low ≤ turns.length) :
    getConversation turns (some (low + 1)) =
      pageUpTo turns low := by
  have length : (turns.take low).length = low := by
    rw [List.length_take, Nat.min_eq_left short]
  have page := numbered.page_eq short
  rw [length] at page
  simp only [getConversation, numbered.filter_ordinal short, length, page, pageUpTo, stretch]

/-! ### What the client makes of it -/

theorem Numbered.prepend (numbered : Numbered turns) (below : low ≤ middle)
    (above : middle ≤ high) (short : high ≤ turns.length) :
    prependUniqueById TurnView.id (stretch turns middle high) (stretch turns low middle) =
      stretch turns low high := by
  rw [prependUniqueById_eq, stretch_append below above short]
  intro turn member
  exact numbered.stretch_apart (le_refl middle) member

/-- New turns come behind those on display. -/
theorem Numbered.merge_behind {first last : Nat} {seen : List TurnView} (numbered : Numbered turns)
    (shown : seen ⊆ stretch turns low high) (behind : high ≤ first) :
    (mergeUniqueById TurnView.id (stretch turns low high)
        (seen ++ stretch turns first last)).insertionSort
      (fun left right => left.ordinal ≤ right.ordinal) =
      stretch turns low high ++ stretch turns first last := by
  rw [mergeUniqueById_eq]
  · apply numbered.sorted
    have parts : (stretch turns low high ++ stretch turns first last).Sublist
        (turns.take high ++ turns.drop high) :=
      List.Sublist.append stretch_sublist_take (stretch_sublist_drop behind)
    rw [List.take_append_drop] at parts
    exact parts
  · intro turn member other known
    apply numbered.eq_of_id _ (mem_of_mem_stretch member)
    rcases List.mem_append.mp known with old | new
    · exact mem_of_mem_stretch (shown old)
    · exact mem_of_mem_stretch new
  · exact shown
  · intro turn member
    exact numbered.stretch_apart behind member

/-- A refresh that overlaps the display, or comes right behind it. -/
theorem Numbered.merge {first last : Nat} (numbered : Numbered turns) (inside : low ≤ first)
    (reaches : first ≤ high) (above : high ≤ last) (short : last ≤ turns.length) :
    (mergeUniqueById TurnView.id (stretch turns low high) (stretch turns first last)).insertionSort
        (fun left right => left.ordinal ≤ right.ordinal) = stretch turns low last := by
  have shown : stretch turns first high ⊆ stretch turns low high := by
    rw [← stretch_append inside reaches (above.trans short)]
    exact List.subset_append_right _ _
  rw [← stretch_append reaches above short, numbered.merge_behind shown (le_refl high),
    stretch_append (inside.trans reaches) above short]

/-- A refresh that leaves a gap. -/
theorem Numbered.merge_gap {first last : Nat} (numbered : Numbered turns) (gap : high ≤ first) :
    (mergeUniqueById TurnView.id (stretch turns low high) (stretch turns first last)).insertionSort
        (fun left right => left.ordinal ≤ right.ordinal) =
      stretch turns low high ++ stretch turns first last :=
  numbered.merge_behind (List.nil_subset _) gap

theorem pageUpTo_grown (later : List TurnView) {count : Nat} (short : count ≤ turns.length) :
    pageUpTo (turns ++ later) count = pageUpTo turns count := by
  rw [pageUpTo, pageUpTo, stretch_grown later short]

theorem Numbered.newest_pageUpTo (numbered : Numbered turns) {count : Nat}
    (short : count ≤ turns.length) : (pageUpTo turns count).newest = count :=
  numbered.newest_stretch short (by omega) _

end Stretches

/-- A display without holes. -/
structure Displays (turns : List TurnView) (low high : Nat) (detail : ConversationDetail) :
    Prop where
  shown : detail = { turns := stretch turns low high, nextBeforeOrdinal := cursorAfter low }
  reaches : low ≤ high - 50
  short : high ≤ turns.length

theorem Displays.noHoles {turns : List TurnView} {low high : Nat} {detail : ConversationDetail}
    (displays : Displays turns low high detail) (numbered : Numbered turns) :
    NoHoles detail high := by
  obtain ⟨rfl, reaches, short⟩ := displays
  refine ⟨⟨low + 1, ?_⟩, numbered.newest_stretch short (by omega) _, ?_⟩
  · rw [numbered.stretch_ordinals short, length_stretch short]
  · by_cases begins : low = 0
    · right
      refine ⟨if_pos begins, ?_⟩
      intro turn first
      have head := numbered.head_stretch short low
      rw [Option.mem_def.mp first, Option.map_some] at head
      split at head
      · cases head
      · rw [Option.some.inj head, begins]
    · left
      rw [numbered.head_stretch short, if_neg (by omega)]
      exact if_neg begins

theorem Displays.grown {turns : List TurnView} {low high : Nat} {detail : ConversationDetail}
    (displays : Displays turns low high detail) (later : List TurnView) :
    Displays (turns ++ later) low high detail where
  shown := by rw [displays.shown, stretch_grown later displays.short]
  reaches := displays.reaches
  short := displays.short.trans (by simp)

/-- The next turn. -/
theorem Numbered.grown {turns : List TurnView} {id : String} (numbered : Numbered turns)
    (fresh : ∀ turn ∈ turns, turn.id ≠ id) :
    Numbered (turns ++ [{ id, ordinal := turns.length + 1 }]) where
  ordinals := by
    rw [List.map_append, numbered.ordinals, List.length_append, List.length_singleton,
      List.range'_concat]
    simp [Nat.add_comm]
  ids := by
    rw [List.map_append, List.map_singleton, ← List.concat_eq_append, List.nodup_concat]
    refine ⟨?_, numbered.ids⟩
    simpa using fresh

/-! ## The invariant -/

/-- What is known of a request in flight: a refresh that is current will be answered with
turns at least as new as those of the last one; a request for older turns was made for the
turns in front of the display, and is the only one. -/
def Awaits (view : ConversationView) (request : PageRequest) : Prop :=
  (request.prepend = false ∧ request.before = none ∧
    ∃ epoch, request.requestEpoch = some epoch ∧ epoch ≤ view.query.requestEpoch ∧
      (epoch = view.query.requestEpoch → ∀ page ∈ request.page,
        ∃ count, view.refreshed ≤ count ∧ count ≤ view.server.length ∧
          page = pageUpTo view.server count)) ∨
  (request.prepend = true ∧ request.requestEpoch = none ∧ view.query.olderLoading = true ∧
    ∃ low, 0 < low ∧ request.before = some (low + 1) ∧
      (∃ detail, view.query.conversation = some detail ∧
        Displays view.server low view.refreshed detail) ∧
      ∀ page ∈ request.page, page = pageUpTo view.server low)

/-- At most one request is in flight for older turns, and one in each epoch. -/
def DistinctRequests (requests : List PageRequest) : Prop :=
  ∀ request ∈ requests, ∀ other ∈ requests,
    request.requestEpoch = other.requestEpoch → request = other

structure ViewInvariant (view : ConversationView) : Prop where
  numbered : Numbered view.server
  bounded : view.refreshed ≤ view.server.length
  display : ∀ detail ∈ view.query.conversation,
    ∃ low, Displays view.server low view.refreshed detail
  awaits : ∀ request ∈ view.requests, Awaits view request
  distinct : DistinctRequests view.requests

theorem DistinctRequests.cons {requests : List PageRequest} {new : PageRequest}
    (distinct : DistinctRequests requests)
    (fresh : ∀ request ∈ requests, request.requestEpoch ≠ new.requestEpoch) :
    DistinctRequests (new :: requests) := by
  intro request member other member' same
  rcases List.mem_cons.mp member with isNew | old
  · rcases List.mem_cons.mp member' with isNew' | old'
    · rw [isNew, isNew']
    · exact absurd (same.symm.trans (congrArg _ isNew)) (fresh other old')
  · rcases List.mem_cons.mp member' with isNew' | old'
    · exact absurd (same.trans (congrArg _ isNew')) (fresh request old)
    · exact distinct request old other old' same

section Moves

variable {view : ConversationView}

variable {request : PageRequest}

/-- Requests stay sound while the display and the refreshes stay as they are. -/
theorem Awaits.of_grown {turn : TurnView} (bounded : view.refreshed ≤ view.server.length)
    (awaits : Awaits view request) :
    Awaits { view with server := view.server ++ [turn] } request := by
  have longer : view.server.length ≤ (view.server ++ [turn]).length := by simp
  rcases awaits with ⟨refresh, first, epoch, known, past, pages⟩ |
    ⟨older, unguarded, loading, low, begun, before, ⟨detail, shown, displays⟩, pages⟩
  · refine .inl ⟨refresh, first, epoch, known, past, ?_⟩
    intro current page served
    obtain ⟨count, newer, short, same⟩ := pages current page served
    exact ⟨count, newer, short.trans longer, same.trans (pageUpTo_grown _ short).symm⟩
  · have short : low ≤ view.server.length := by
      have := displays.reaches
      omega
    refine .inr ⟨older, unguarded, loading, low, begun, before, ⟨detail, shown, ?_⟩, ?_⟩
    · exact displays.grown _
    · intro page served
      exact (pages page served).trans (pageUpTo_grown _ short).symm

theorem ViewInvariant.newTurn (invariant : ViewInvariant view) (id : String) :
    ViewInvariant (view.move (.newTurn id)) := by
  simp only [ConversationView.move]
  split
  · exact invariant
  · rename_i fresh
    refine ⟨invariant.numbered.grown (by simpa using fresh), ?_, ?_, ?_, invariant.distinct⟩
    · exact invariant.bounded.trans (by simp)
    · intro detail shown
      obtain ⟨low, displays⟩ := invariant.display detail shown
      exact ⟨low, displays.grown _⟩
    · intro request member
      exact (invariant.awaits request member).of_grown invariant.bounded

theorem ViewInvariant.refresh (invariant : ViewInvariant view) :
    ViewInvariant (view.move .refresh) where
  numbered := invariant.numbered
  bounded := invariant.bounded
  display := invariant.display
  awaits := by
    intro request member
    rcases List.mem_cons.mp member with rfl | old
    · exact .inl ⟨rfl, rfl, _, rfl, le_refl _, fun _ _ served => by cases served⟩
    · rcases invariant.awaits request old with ⟨plain, first, epoch, known, past, _⟩ | older
      · exact .inl ⟨plain, first, epoch, known, past.trans (Nat.le_succ _), fun current => by
          have : epoch = view.query.requestEpoch + 1 := current
          omega⟩
      · exact .inr older
  distinct := by
    apply invariant.distinct.cons
    intro request member same
    rcases invariant.awaits request member with ⟨_, _, epoch, known, past, _⟩ | ⟨_, unguarded, _⟩
    · have next : epoch = view.query.requestEpoch + 1 := Option.some.inj (known.symm.trans same)
      omega
    · cases unguarded.symm.trans same

/-- The cursor is there while turns are missing at the front. -/
theorem ViewInvariant.olderCursor (invariant : ViewInvariant view) {before : Nat}
    (cursor : view.query.olderCursor = some before) :
    view.query.olderLoading = false ∧ ∃ low, 0 < low ∧ before = low + 1 ∧
      ∃ detail, view.query.conversation = some detail ∧
        Displays view.server low view.refreshed detail := by
  unfold ConversationQuery.olderCursor at cursor
  split at cursor
  · cases cursor
  · rename_i idle
    obtain ⟨detail, shown, found⟩ := Option.bind_eq_some_iff.mp cursor
    obtain ⟨low, displays⟩ := invariant.display detail shown
    have next := (Option.filter_eq_some_iff.mp found).1
    rw [displays.shown] at next
    simp only [cursorAfter] at next
    split at next
    · cases next
    · exact ⟨by simpa using idle, low, by omega, (Option.some.inj next).symm, detail, shown,
        displays⟩

theorem ViewInvariant.loadOlder (invariant : ViewInvariant view) :
    ViewInvariant (view.move .loadOlder) := by
  simp only [ConversationView.move]
  split
  · exact invariant
  · rename_i before cursor
    obtain ⟨idle, low, begun, same, detail, shown, displays⟩ := invariant.olderCursor cursor
    refine ⟨invariant.numbered, invariant.bounded, invariant.display, ?_, ?_⟩
    · intro request member
      rcases List.mem_cons.mp member with rfl | old
      · exact .inr ⟨rfl, rfl, rfl, low, begun, congrArg some same, ⟨detail, shown, displays⟩,
          fun _ served => by cases served⟩
      · rcases invariant.awaits request old with refresh | ⟨_, _, loading, _⟩
        · exact .inl refresh
        · cases idle.symm.trans loading
    · apply invariant.distinct.cons
      intro request member unguarded
      rcases invariant.awaits request member with ⟨_, _, _, known, _⟩ | ⟨_, _, loading, _⟩
      · cases known.symm.trans unguarded
      · cases idle.symm.trans loading

theorem ViewInvariant.serve (invariant : ViewInvariant view) (number : Nat) :
    ViewInvariant (view.move (.serve number)) := by
  refine ⟨invariant.numbered, invariant.bounded, invariant.display, ?_, ?_⟩
  · intro answered member
    obtain ⟨request, old, same⟩ := List.mem_map.mp member
    have awaits := invariant.awaits request old
    split at same
    · rw [← same]
      rcases awaits with ⟨plain, first, epoch, known, past, _⟩ |
        ⟨older, unguarded, loading, low, begun, before, ⟨detail, shown, displays⟩, _⟩
      · refine .inl ⟨plain, first, epoch, known, past, ?_⟩
        intro _ page served
        have newest := invariant.numbered.getConversation_newest (le_refl view.server.length)
        rw [List.take_length] at newest
        refine ⟨view.server.length, invariant.bounded, le_refl _, ?_⟩
        rw [← Option.some.inj served, first, newest]
        rfl
      · refine .inr ⟨older, unguarded, loading, low, begun, before, ⟨detail, shown, displays⟩, ?_⟩
        intro page served
        have short : low ≤ view.server.length := by
          have := displays.reaches
          have := displays.short
          omega
        rw [← Option.some.inj served, before, invariant.numbered.getConversation_before short]
        rfl
    · rw [← same]
      exact awaits
  · intro answered member other member' same
    obtain ⟨request, old, equal⟩ := List.mem_map.mp member
    obtain ⟨request', old', equal'⟩ := List.mem_map.mp member'
    have epochs : request.requestEpoch = request'.requestEpoch := by
      rw [← equal, ← equal'] at same
      split at same <;> split at same <;> exact same
    rw [← equal, ← equal', invariant.distinct request old request' old' epochs]

/-! ### The end of a request -/

theorem ConversationView.mem_of_request {number : Nat}
    (found : view.request number = some request) : request ∈ view.requests :=
  List.mem_of_find?_eq_some found

theorem DistinctRequests.others {requests : List PageRequest} {request other : PageRequest}
    (distinct : DistinctRequests requests) (member : request ∈ requests)
    (remains : other ∈ requests.filter fun other => other.number ≠ request.number) :
    other ∈ requests ∧ other.requestEpoch ≠ request.requestEpoch := by
  obtain ⟨kept, apart⟩ := List.mem_filter.mp remains
  refine ⟨kept, ?_⟩
  intro same
  rw [distinct other kept request member same] at apart
  simp at apart

theorem DistinctRequests.filter {requests : List PageRequest} (distinct : DistinctRequests requests)
    (kept : PageRequest → Bool) : DistinctRequests (requests.filter kept) := by
  intro request member other member' same
  exact distinct request (List.mem_of_mem_filter member) other (List.mem_of_mem_filter member') same

/-- Without one request for older turns there is none. -/
theorem ViewInvariant.others_refresh (invariant : ViewInvariant view) {request other : PageRequest}
    (member : request ∈ view.requests) (older : request.prepend = true)
    (remains : other ∈ view.requests.filter fun other => other.number ≠ request.number) :
    other.prepend = false := by
  obtain ⟨kept, apart⟩ := invariant.distinct.others member remains
  rcases invariant.awaits other kept with ⟨plain, _⟩ | ⟨_, unguarded, _⟩
  · exact plain
  · rcases invariant.awaits request member with ⟨plain, _⟩ | ⟨_, unguarded', _⟩
    · cases plain.symm.trans older
    · exact absurd (unguarded.trans unguarded'.symm) apart

/-- A request ends without an effect. -/
theorem ViewInvariant.close (invariant : ViewInvariant view) (member : request ∈ view.requests) :
    ViewInvariant (view.close request view.query) where
  numbered := invariant.numbered
  bounded := invariant.bounded
  display := invariant.display
  awaits := by
    intro other remains
    have kept : other ∈ view.requests := List.mem_of_mem_filter remains
    rcases invariant.awaits other kept with refresh | older
    · exact .inl refresh
    · obtain ⟨isOlder, unguarded, loading, rest⟩ := older
      cases prepend : request.prepend with
      | true =>
          have plain := invariant.others_refresh member prepend remains
          cases plain.symm.trans isOlder
      | false =>
          refine .inr ⟨isOlder, unguarded, ?_, rest⟩
          simp [ConversationView.close, loading, prepend]
  distinct := invariant.distinct.filter _

/-- Older turns come in front of the display. -/
theorem ViewInvariant.prepended (invariant : ViewInvariant view) {page : ConversationDetail}
    (member : request ∈ view.requests) (older : request.prepend = true)
    (served : request.page = some page) :
    ViewInvariant (view.close request (view.query.finishLoad request page)) := by
  rcases invariant.awaits request member with ⟨plain, _⟩ |
    ⟨_, unguarded, _, low, begun, _, ⟨detail, shown, displays⟩, pages⟩
  · cases plain.symm.trans older
  · have current : view.query.isCurrent request = true := by
      simp [ConversationQuery.isCurrent, unguarded]
    have finished : view.query.finishLoad request page =
        { view.query with
          conversation := some
            { turns := stretch view.server (low - 50) view.refreshed
              nextBeforeOrdinal := cursorAfter (low - 50) } } := by
      have joined : prependUniqueById TurnView.id (stretch view.server low view.refreshed)
          (stretch view.server (low - 50) low) = stretch view.server (low - 50) view.refreshed := by
        apply invariant.numbered.prepend (by omega) _ displays.short
        have := displays.reaches
        omega
      rw [ConversationQuery.finishLoad, if_pos current, shown, pages page served, older,
        displays.shown]
      simp only [ConversationQuery.setConversation, if_true, pageUpTo, joined]
    rw [finished]
    refine ⟨invariant.numbered, invariant.bounded, ?_, ?_, invariant.distinct.filter _⟩
    · intro newer same
      have reaches : low - 50 ≤ view.refreshed - 50 := by
        have := displays.reaches
        omega
      exact ⟨low - 50, (Option.some.inj same).symm, reaches, displays.short⟩
    · intro other remains
      have kept : other ∈ view.requests := List.mem_of_mem_filter remains
      rcases invariant.awaits other kept with refresh | ⟨isOlder, _⟩
      · exact .inl refresh
      · have plain := invariant.others_refresh member older remains
        cases plain.symm.trans isOlder

/-- A refresh that reaches back to the display extends it. -/
theorem Displays.merged {turns : List TurnView} {low high count : Nat} {detail : ConversationDetail}
    (displays : Displays turns low high detail) (numbered : Numbered turns)
    (timely : count ≤ high + 50) (newer : high ≤ count) (short : count ≤ turns.length) :
    Displays turns low count
      (ConversationQuery.setConversation (some detail) (pageUpTo turns count) false) where
  shown := by
    have inside : low ≤ count - 50 := by
      have := displays.reaches
      omega
    rw [displays.shown]
    simp only [ConversationQuery.setConversation, pageUpTo, Bool.false_eq_true, if_false,
      numbered.merge inside (by omega : count - 50 ≤ high) newer short]
  reaches := by
    have := displays.reaches
    omega
  short := short

/-- What a refresh in flight brings when it counts. -/
theorem ViewInvariant.page_of_current (invariant : ViewInvariant view) {page : ConversationDetail}
    (member : request ∈ view.requests) (plain : request.prepend = false)
    (current : view.query.isCurrent request = true) (served : request.page = some page) :
    request.requestEpoch = some view.query.requestEpoch ∧
      ∃ count, view.refreshed ≤ count ∧ count ≤ view.server.length ∧
        page = pageUpTo view.server count ∧ page.newest = count := by
  rcases invariant.awaits request member with ⟨_, _, epoch, known, _, pages⟩ | ⟨older, _⟩
  · have same : view.query.requestEpoch = epoch := by
      simpa [ConversationQuery.isCurrent, known] using current
    obtain ⟨count, newer, short, equal⟩ := pages same.symm page served
    refine ⟨by rw [known, same], count, newer, short, equal, ?_⟩
    rw [equal, invariant.numbered.newest_pageUpTo short]
  · cases plain.symm.trans older

/-- A refresh is applied in time. -/
theorem ViewInvariant.merged (invariant : ViewInvariant view) {page : ConversationDetail}
    (member : request ∈ view.requests) (plain : request.prepend = false)
    (current : view.query.isCurrent request = true) (served : request.page = some page)
    (timely : ∀ detail ∈ view.query.conversation, page.newest ≤ view.refreshed + 50) :
    ViewInvariant { view.close request (view.query.finishLoad request page) with
      refreshed := page.newest } := by
  obtain ⟨epoch, count, newer, short, equal, newest⟩ :=
    invariant.page_of_current member plain current served
  have shows : ∀ low detail, view.query.conversation = some detail →
      Displays view.server low view.refreshed detail →
      Displays view.server low count
        (ConversationQuery.setConversation (some detail) page false) := by
    intro low detail shown displays
    rw [equal]
    exact displays.merged invariant.numbered (newest ▸ timely detail shown) newer short
  have finished : view.query.finishLoad request page =
      { view.query with
        conversation := some
          (ConversationQuery.setConversation view.query.conversation page false) } := by
    rw [ConversationQuery.finishLoad, if_pos current, plain]
  rw [finished, newest]
  refine ⟨invariant.numbered, short, ?_, ?_, invariant.distinct.filter _⟩
  · intro detail same
    rw [← Option.some.inj same]
    cases shown : view.query.conversation with
    | none =>
        exact ⟨count - 50, equal, le_refl _, short⟩
    | some old =>
        obtain ⟨low, displays⟩ := invariant.display old shown
        exact ⟨low, shows low old shown displays⟩
  · intro other remains
    obtain ⟨kept, apart⟩ := invariant.distinct.others member remains
    rcases invariant.awaits other kept with ⟨isRefresh, first, epoch', known, past, _⟩ |
      ⟨isOlder, unguarded, loading, low, begun, before, ⟨detail, shown, displays⟩, pages⟩
    · refine .inl ⟨isRefresh, first, epoch', known, past, ?_⟩
      intro current'
      have same : epoch' = view.query.requestEpoch := current'
      rw [known, epoch, same] at apart
      exact absurd rfl apart
    · refine .inr ⟨isOlder, unguarded, ?_, low, begun, before, ⟨_, rfl, ?_⟩, pages⟩
      · simp [ConversationView.close, loading, plain]
      · rw [shown]
        exact shows low detail shown displays

/-! ### Every move -/

theorem ViewInvariant.move (invariant : ViewInvariant view) {move : ViewMove}
    (timely : Timely view move) : ViewInvariant (view.move move) := by
  cases move with
  | newTurn id => exact invariant.newTurn id
  | refresh => exact invariant.refresh
  | loadOlder => exact invariant.loadOlder
  | serve number => exact invariant.serve number
  | arrive number =>
      simp only [ConversationView.move]
      cases found : view.request number with
      | none => exact invariant
      | some request =>
          have member := ConversationView.mem_of_request found
          cases served : request.page with
          | none =>
              simp only [served]
              exact invariant
          | some page =>
              simp only [served]
              cases current : view.query.isCurrent request with
              | false =>
                  have ignored : view.query.finishLoad request page = view.query := by
                    simp [ConversationQuery.finishLoad, current]
                  rw [ignored]
                  exact invariant.close member
              | true =>
                  cases prepend : request.prepend with
                  | true => exact invariant.prepended member prepend served
                  | false =>
                      apply invariant.merged member prepend current served
                      intro detail shown
                      exact timely number request page detail rfl found served current prepend shown
  | fail number =>
      simp only [ConversationView.move]
      cases found : view.request number with
      | none => exact invariant
      | some request => exact invariant.close (ConversationView.mem_of_request found)

/-- The display with a gap, from which no load of older turns recovers. -/
theorem not_noHoles_of_gap {turns : List TurnView} {low high count : Nat}
    {detail : ConversationDetail} (displays : Displays turns low high detail)
    (numbered : Numbered turns) (late : high + 50 < count) (short : count ≤ turns.length) :
    ¬NoHoles (ConversationQuery.setConversation (some detail) (pageUpTo turns count) false)
      count := by
  intro noHoles
  have reaches := displays.reaches
  have gap : ConversationQuery.setConversation (some detail) (pageUpTo turns count) false =
      { turns := stretch turns low high ++ stretch turns (count - 50) count
        nextBeforeOrdinal := cursorAfter low } := by
    rw [displays.shown]
    simp only [ConversationQuery.setConversation, pageUpTo, Bool.false_eq_true, if_false,
      numbered.merge_gap (by omega : high ≤ count - 50)]
  rw [gap] at noHoles
  by_cases empty : high = 0
  · -- Nothing was on display, so the cursor says that nothing is missing in front.
    have begins : low = 0 := by omega
    have nothing : stretch turns low high = [] := by
      rw [stretch, empty, List.take_zero, List.drop_nil]
    have first := numbered.head_stretch short (count - 50)
    rw [if_neg (by omega)] at first
    rcases noHoles.cursor with cursor | ⟨_, cursor⟩
    · rw [nothing, List.nil_append, first, cursorAfter, if_pos begins] at cursor
      cases cursor
    · rw [nothing, List.nil_append] at cursor
      obtain ⟨turn, head, ordinal⟩ := Option.map_eq_some_iff.mp first
      have := cursor turn head
      omega
  · obtain ⟨first, ordinals⟩ := noHoles.contiguous
    have size : (stretch turns low high ++ stretch turns (count - 50) count).length =
        (high - low) + 50 := by
      rw [List.length_append, length_stretch displays.short, length_stretch short]
      omega
    rw [List.map_append, numbered.stretch_ordinals displays.short,
      numbered.stretch_ordinals short, size, ← List.range'_append_1] at ordinals
    obtain ⟨front, back⟩ := List.append_inj ordinals (by simp)
    have front' := congrArg List.head? front
    have back' := congrArg List.head? back
    rw [List.head?_range', List.head?_range', if_neg (by omega), if_neg (by omega)] at front' back'
    have := Option.some.inj front'
    have := Option.some.inj back'
    omega

end Moves

/-! ## Whole runs -/

theorem viewInvariant_initial : ViewInvariant {} where
  numbered := ⟨rfl, List.nodup_nil⟩
  bounded := Nat.le_refl _
  display := by simp
  awaits := by simp
  distinct := by simp [DistinctRequests]

/-- What is on display has no holes. -/
def ConversationView.WithoutHoles (view : ConversationView) : Prop :=
  ∀ detail ∈ view.query.conversation, NoHoles detail view.refreshed

theorem ViewInvariant.withoutHoles {view : ConversationView} (invariant : ViewInvariant view) :
    view.WithoutHoles := by
  intro detail shown
  obtain ⟨_, displays⟩ := invariant.display detail shown
  exact displays.noHoles invariant.numbered

/-- A refresh that is late leaves a hole. -/
theorem ViewInvariant.timely {view : ConversationView} {move : ViewMove}
    (invariant : ViewInvariant view) (noHoles : (view.move move).WithoutHoles) :
    Timely view move := by
  intro number request page detail arrives found served current plain shown
  have member := ConversationView.mem_of_request found
  obtain ⟨_, count, newer, short, equal, newest⟩ :=
    invariant.page_of_current member plain current served
  obtain ⟨low, displays⟩ := invariant.display detail shown
  by_contra late
  have after : view.move move = { view.close request (view.query.finishLoad request page) with
      refreshed := page.newest } := by
    simp [arrives, ConversationView.move, found, served, current, plain]
  have displayed : (view.move move).query.conversation = some
      (ConversationQuery.setConversation (some detail) (pageUpTo view.server count) false) := by
    rw [after]
    simp [ConversationView.close, ConversationQuery.finishLoad, current, plain, shown, equal]
  have holds := noHoles _ displayed
  rw [after] at holds
  rw [newest] at late holds
  exact not_noHoles_of_gap displays invariant.numbered (by omega) short holds

theorem ConversationView.run_concat (moves : List ViewMove) (move : ViewMove) :
    run (moves ++ [move]) = (run moves).move move := by
  rw [run, List.foldl_append]
  rfl

/-- A run keeps the invariant as long as every step does. -/
theorem viewInvariant_run {moves : List ViewMove}
    (steps : ∀ done move, done ++ [move] <+: moves → ViewInvariant (ConversationView.run done) →
      Timely (ConversationView.run done) move) :
    ∀ done, done <+: moves → ViewInvariant (ConversationView.run done) := by
  intro done
  induction done using List.reverseRecOn with
  | nil =>
      intro _
      exact viewInvariant_initial
  | append_singleton earlier last induction =>
      intro happened
      have before := induction ((List.prefix_append earlier [last]).trans happened)
      rw [ConversationView.run_concat]
      exact before.move (steps earlier last happened before)

/-- The display of a conversation never has a hole just when every refresh that is applied
to it brings at most fifty turns past those of the one before. -/
theorem conversationView_withoutHoles_iff (moves : List ViewMove) :
    (∀ done, done <+: moves → (ConversationView.run done).WithoutHoles) ↔
      ∀ done move, done ++ [move] <+: moves → Timely (ConversationView.run done) move := by
  constructor
  · intro noHoles
    have timely : ∀ done move, done ++ [move] <+: moves →
        ViewInvariant (ConversationView.run done) → Timely (ConversationView.run done) move := by
      intro done move happened invariant
      have after := noHoles (done ++ [move]) happened
      rw [ConversationView.run_concat] at after
      exact invariant.timely after
    intro done move happened
    have before : done <+: moves := (List.prefix_append done [move]).trans happened
    exact timely done move happened (viewInvariant_run timely done before)
  · intro timely done happened
    have invariant := viewInvariant_run (fun earlier move next _ => timely earlier move next)
    exact (invariant done happened).withoutHoles

/-- One turn is on display when the next refresh comes, 51 turns later. -/
def lateRefresh : List ViewMove :=
  [.newTurn "0", .refresh, .serve 0, .arrive 0] ++
    (List.range 51).map (fun count => .newTurn (toString (count + 1))) ++
    [.refresh, .serve 1, .arrive 1]

/-- The second turn is missing then. -/
theorem lateRefresh_leaves_hole :
    ¬∀ done, done <+: lateRefresh → (ConversationView.run done).WithoutHoles := by
  intro noHoles
  have shown : (ConversationView.run lateRefresh).query.conversation.map
      (fun detail => detail.turns.map TurnView.ordinal) = some (1 :: List.range' 3 50) := by
    decide +kernel
  obtain ⟨detail, displayed, ordinals⟩ := Option.map_eq_some_iff.mp shown
  obtain ⟨first, contiguous⟩ := (noHoles _ (List.prefix_refl _) detail displayed).contiguous
  have size : detail.turns.length = 51 := by
    rw [← List.length_map TurnView.ordinal, ordinals]
    rfl
  rw [ordinals, size] at contiguous
  injection contiguous with same rest
  rw [← same] at rest
  exact absurd rest (by decide)

end SupportGuard
