import Mathlib

/-! # The actions of a conversation on display

`conversationState.ts`: a page of a conversation brings snapshots of its actions. The display
keeps the newest snapshot of each action, in whatever order the pages come. -/

namespace SupportGuard

/-! ## Merging -/

/-- A snapshot of an action. The merge reads no other members. -/
structure ProductAction (Payload : Type) where
  id : String
  status : String
  statusVersion : Option Int
  payload : Payload
deriving DecidableEq

/-- A missing version counts as zero. -/
def ProductAction.version {Payload : Type} (action : ProductAction Payload) : Int :=
  action.statusVersion.getD 0

def actionStatusRank (status : String) : Nat :=
  if status = "pending" then 1
  else if status = "approved" then 2
  else if status = "executing" then 3
  else if status = "verification_pending" then 4
  else if status ∈ ["executed", "rejected", "stale", "withdrawn", "failed"] then 5
  else 0

section

variable {Payload : Type}

/-- The snapshot that stays of the one on display and one that comes. -/
def laterAction (previous item : ProductAction Payload) : ProductAction Payload :=
  if item.version < previous.version then previous
  else if item.version = previous.version ∧
      actionStatusRank item.status < actionStatusRank previous.status then previous
  else item

/-- A map keeps the last of the items with an id. -/
def priorAction (current : List (ProductAction Payload)) (id : String) :
    Option (ProductAction Payload) :=
  current.reverse.find? (·.id = id)

def mergeActions (current incoming : List (ProductAction Payload)) :
    List (ProductAction Payload) :=
  incoming.map (fun item =>
      match priorAction current item.id with
      | none => item
      | some previous => laterAction previous item) ++
    current.filter fun item => item.id ∉ incoming.map ProductAction.id

/-- The actions of a page: the server projects each action once. -/
structure ActionPage (Payload : Type) where
  actions : List (ProductAction Payload)
  distinct : (actions.map ProductAction.id).Nodup

/-- What is on display after some pages. -/
def displayedActions (pages : List (ActionPage Payload)) : List (ProductAction Payload) :=
  pages.foldl (fun current page => mergeActions current page.actions) []

def displayedAction (pages : List (ActionPage Payload)) (id : String) :
    Option (ProductAction Payload) :=
  (displayedActions pages).find? (·.id = id)

/-- The snapshots that pages have brought. -/
def fetchedActions (pages : List (ActionPage Payload)) : List (ProductAction Payload) :=
  pages.flatMap ActionPage.actions

/-! ## The newest snapshots -/

/-- The version of an action determines its snapshot. -/
def VersionDetermines (fetched : List (ProductAction Payload)) : Prop :=
  ∀ action ∈ fetched, ∀ other ∈ fetched, action.id = other.id →
    action.version = other.version → action = other

/-- One entry for each action that was fetched, and it is the newest snapshot. -/
structure ShowsNewest (fetched shown : List (ProductAction Payload)) : Prop where
  distinct : (shown.map ProductAction.id).Nodup
  subset : shown ⊆ fetched
  newest : ∀ action ∈ fetched, ∃ entry ∈ shown, entry.id = action.id ∧
    action.version ≤ entry.version

variable {fetched fetched' shown shown' incoming : List (ProductAction Payload)}

theorem action_eq_of_id (distinct : (shown.map ProductAction.id).Nodup)
    {entry other : ProductAction Payload}
    (member : entry ∈ shown) (otherMember : other ∈ shown) (same : entry.id = other.id) :
    entry = other :=
  List.inj_on_of_nodup_map distinct member otherMember same

theorem id_of_find?_action {id : String} {entry : ProductAction Payload}
    (found : shown.find? (·.id = id) = some entry) : entry.id = id := by
  simpa using List.find?_some found

theorem priorAction_eq_some_iff (distinct : (shown.map ProductAction.id).Nodup)
    {id : String} {entry : ProductAction Payload} :
    priorAction shown id = some entry ↔ entry ∈ shown ∧ entry.id = id := by
  constructor
  · intro found
    have member := List.mem_reverse.mp (List.mem_of_find?_eq_some found)
    exact ⟨member, id_of_find?_action found⟩
  · intro both
    rcases both with ⟨member, same⟩
    cases found : priorAction shown id with
    | none =>
        have missing := List.find?_eq_none.mp found entry (List.mem_reverse.mpr member)
        exact absurd (decide_eq_true same) missing
    | some other =>
        have otherMember := List.mem_reverse.mp (List.mem_of_find?_eq_some found)
        have otherSame : other.id = id := id_of_find?_action found
        rw [action_eq_of_id distinct otherMember member (otherSame.trans same.symm)]

/-- Of two snapshots of one action the newer one stays. -/
theorem laterAction_spec {previous item : ProductAction Payload} (same : previous.id = item.id) :
    (laterAction previous item = previous ∨ laterAction previous item = item) ∧
      (laterAction previous item).id = item.id ∧
      previous.version ≤ (laterAction previous item).version ∧
      item.version ≤ (laterAction previous item).version := by
  unfold laterAction
  split
  · rename_i older
    exact ⟨.inl rfl, same, le_refl _, older.le⟩
  · rename_i noOlder
    split
    · rename_i equal
      exact ⟨.inl rfl, same, le_refl _, equal.1.le⟩
    · exact ⟨.inr rfl, rfl, Int.not_lt.mp noOlder, le_refl _⟩

/-- What an item of a page becomes. -/
theorem mergedItem_spec (shows : ShowsNewest fetched shown) (item : ProductAction Payload) :
    ∃ entry, (match priorAction shown item.id with
        | none => item
        | some previous => laterAction previous item) = entry ∧
      (entry ∈ shown ∨ entry = item) ∧ entry.id = item.id ∧ item.version ≤ entry.version ∧
      ∀ previous ∈ shown, previous.id = item.id → previous.version ≤ entry.version := by
  cases found : priorAction shown item.id with
  | none =>
      refine ⟨item, rfl, .inr rfl, rfl, le_refl _, ?_⟩
      intro previous member same
      rw [(priorAction_eq_some_iff shows.distinct).mpr ⟨member, same⟩] at found
      cases found
  | some previous =>
      rcases (priorAction_eq_some_iff shows.distinct).mp found with ⟨member, same⟩
      rcases laterAction_spec same with ⟨either, id, older, newer⟩
      refine ⟨laterAction previous item, rfl, ?_, id, newer, ?_⟩
      · rcases either with kept | taken
        · exact .inl (kept.symm ▸ member)
        · exact .inr taken
      · intro other otherMember otherSame
        rw [action_eq_of_id shows.distinct otherMember member (otherSame.trans same.symm)]
        exact older

theorem mergeActions_ids (shows : ShowsNewest fetched shown)
    (incoming : List (ProductAction Payload)) :
    (mergeActions shown incoming).map ProductAction.id = incoming.map ProductAction.id ++
      (shown.map ProductAction.id).filter fun id => id ∉ incoming.map ProductAction.id := by
  unfold mergeActions
  rw [List.map_append, List.map_map, List.filter_map]
  congr 1
  apply List.map_congr_left
  intro item _
  rcases mergedItem_spec shows item with ⟨entry, equal, _, id, _⟩
  rw [Function.comp_apply, equal, id]

/-- A page that comes keeps the display at the newest snapshots. -/
theorem ShowsNewest.mergeActions (shows : ShowsNewest fetched shown)
    (distinct : (incoming.map ProductAction.id).Nodup) :
    ShowsNewest (fetched ++ incoming) (mergeActions shown incoming) := by
  constructor
  · rw [mergeActions_ids shows, List.nodup_append]
    refine ⟨distinct, shows.distinct.filter _, ?_⟩
    intro id member other otherMember same
    have absent := of_decide_eq_true (List.mem_filter.mp otherMember).2
    exact absent (same ▸ member)
  · intro entry member
    rcases List.mem_append.mp member with merged | kept
    · rcases List.mem_map.mp merged with ⟨item, itemMember, equal⟩
      rcases mergedItem_spec shows item with ⟨found, foundEqual, either, _⟩
      rw [← equal, foundEqual]
      rcases either with old | new
      · exact List.mem_append_left _ (shows.subset old)
      · exact List.mem_append_right _ (new ▸ itemMember)
    · exact List.mem_append_left _ (shows.subset (List.mem_filter.mp kept).1)
  · have replaced (item : ProductAction Payload) (itemMember : item ∈ incoming) :
        ∃ entry ∈ SupportGuard.mergeActions shown incoming, entry.id = item.id ∧
          item.version ≤ entry.version ∧
          ∀ previous ∈ shown, previous.id = item.id → previous.version ≤ entry.version := by
      rcases mergedItem_spec shows item with ⟨entry, equal, _, id, newer, older⟩
      exact ⟨entry, List.mem_append_left _ (List.mem_map.mpr ⟨item, itemMember, equal⟩), id,
        newer, older⟩
    intro action member
    rcases List.mem_append.mp member with old | new
    · rcases shows.newest action old with ⟨shownEntry, shownMember, same, below⟩
      by_cases again : shownEntry.id ∈ incoming.map ProductAction.id
      · rcases List.mem_map.mp again with ⟨item, itemMember, itemSame⟩
        rcases replaced item itemMember with ⟨entry, entryMember, id, _, older⟩
        refine ⟨entry, entryMember, (id.trans itemSame).trans same, ?_⟩
        exact below.trans (older shownEntry shownMember itemSame.symm)
      · refine ⟨shownEntry, List.mem_append_right _ ?_, same, below⟩
        exact List.mem_filter.mpr ⟨shownMember, decide_eq_true again⟩
    · rcases replaced action new with ⟨entry, entryMember, id, newer, _⟩
      exact ⟨entry, entryMember, id, newer⟩

theorem displayedActions_showsNewest (pages : List (ActionPage Payload)) :
    ShowsNewest (fetchedActions pages) (displayedActions pages) := by
  induction pages using List.reverseRecOn with
  | nil =>
      refine ⟨List.nodup_nil, List.Subset.refl _, ?_⟩
      intro action member
      cases member
  | append_singleton pages page induction =>
      have fetchedMore : fetchedActions (pages ++ [page]) =
          fetchedActions pages ++ page.actions := by
        rw [fetchedActions, List.flatMap_append, List.flatMap_singleton]
        rfl
      have shownMore : displayedActions (pages ++ [page]) =
          SupportGuard.mergeActions (displayedActions pages) page.actions := List.foldl_concat ..
      rw [fetchedMore, shownMore]
      exact induction.mergeActions page.distinct

/-- The newest snapshots do not depend on how they were shown. -/
theorem ShowsNewest.find?_eq (determined : VersionDetermines fetched)
    (shows : ShowsNewest fetched shown) (shows' : ShowsNewest fetched' shown')
    (same : ∀ action, action ∈ fetched' ↔ action ∈ fetched) (id : String) :
    shown'.find? (·.id = id) = shown.find? (·.id = id) := by
  have newest {entry : ProductAction Payload} (member : entry ∈ shown) : entry ∈ shown' := by
    rcases shows'.newest entry ((same entry).mpr (shows.subset member)) with
      ⟨entry', member', sameId, below⟩
    have fetchedToo := (same entry').mp (shows'.subset member')
    rcases shows.newest entry' fetchedToo with ⟨top, topMember, topId, topBelow⟩
    have topIs := action_eq_of_id shows.distinct topMember member (topId.trans sameId)
    rw [topIs] at topBelow
    rw [determined entry (shows.subset member) entry' fetchedToo sameId.symm
      (le_antisymm below topBelow)]
    exact member'
  cases found : shown.find? (·.id = id) with
  | some entry =>
      have entryId : entry.id = id := id_of_find?_action found
      have member' := newest (List.mem_of_find?_eq_some found)
      cases found' : shown'.find? (·.id = id) with
      | none =>
          exact absurd (decide_eq_true entryId) (List.find?_eq_none.mp found' entry member')
      | some entry' =>
          have entryId' : entry'.id = id := id_of_find?_action found'
          rw [action_eq_of_id shows'.distinct (List.mem_of_find?_eq_some found') member'
            (entryId'.trans entryId.symm)]
  | none =>
      rw [List.find?_eq_none] at found ⊢
      intro entry' member' matched
      rcases shows.newest entry' ((same entry').mp (shows'.subset member')) with
        ⟨entry, member, sameId, _⟩
      exact found entry member (decide_eq_true (sameId.trans (of_decide_eq_true matched)))

/-- The display has the newest snapshot of each action that was fetched, whatever the order and
the repetitions of the pages. -/
theorem displayedActions_newest (pages : List (ActionPage Payload))
    (determined : VersionDetermines (fetchedActions pages)) :
    ShowsNewest (fetchedActions pages) (displayedActions pages) ∧
      ∀ pages' : List (ActionPage Payload),
        (∀ action, action ∈ fetchedActions pages' ↔ action ∈ fetchedActions pages) →
          ∀ id, displayedAction pages' id = displayedAction pages id :=
  ⟨displayedActions_showsNewest pages, fun pages' same id =>
    (displayedActions_showsNewest pages).find?_eq determined
      (displayedActions_showsNewest pages') same id⟩

def firstActions : List (ProductAction Unit) :=
  [⟨"a", "executed", some 3, ()⟩, ⟨"b", "pending", some 1, ()⟩]

def lateActions : List (ProductAction Unit) :=
  [⟨"a", "pending", some 1, ()⟩]

theorem firstActions_distinct : (firstActions.map ProductAction.id).Nodup := by
  decide

theorem lateActions_distinct : (lateActions.map ProductAction.id).Nodup := by
  decide

/-- A response that comes late, with an older snapshot of one of two actions. -/
def latePages : List (ActionPage Unit) :=
  [⟨firstActions, firstActions_distinct⟩, ⟨lateActions, lateActions_distinct⟩]

theorem displayedActions_newest_late :
    ShowsNewest (fetchedActions latePages) (displayedActions latePages) ∧
      ∀ pages' : List (ActionPage Unit),
        (∀ action, action ∈ fetchedActions pages' ↔ action ∈ fetchedActions latePages) →
          ∀ id, displayedAction pages' id = displayedAction latePages id :=
  displayedActions_newest latePages (by unfold VersionDetermines; decide)

end

end SupportGuard
