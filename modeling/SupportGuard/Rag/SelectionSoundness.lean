import SupportGuard.Rag.RetrievalAccount

/-! # What a selection of evidence promises

`select_evidence`: a set that is not refused keeps the bounds it was given, has one scope for
each family and one version of each section, and leaves no admitted candidate without a reason. -/

namespace SupportGuard

open Foundation Fallible

namespace Retrieval

section

variable {Score : Type} {doubles : Doubles Score}

def tokensOf (items : List (RankedChunk Score)) : Int :=
  (items.map fun item => item.chunk.tokenCount).sum

def contentHashes (items : List (RankedChunk Score)) : List String :=
  items.map fun item => item.chunk.contentHash

/-! ## The loop -/

/-- What the loop keeps: an item comes only behind others that leave it room. -/
structure WithinBounds (tokenBudget maxItems : Int) (selected : List (RankedChunk Score)) :
    Prop where
  distinct : (contentHashes selected).Nodup
  count : selected ≠ [] → (selected.length : Int) ≤ maxItems
  tokens : 1 < selected.length → tokensOf selected ≤ tokenBudget

theorem withinBounds_nil (tokenBudget maxItems : Int) :
    WithinBounds tokenBudget maxItems ([] : List (RankedChunk Score)) := by
  constructor
  · exact List.nodup_nil
  · intro nonempty
    exact absurd rfl nonempty
  · intro several
    cases several

variable {selected : List (RankedChunk Score)}

theorem refusalOf_eq_none {tokenBudget maxItems : Int} {item : RankedChunk Score}
    (free : refusalOf tokenBudget maxItems selected item = none) :
    item.chunk.contentHash ∉ contentHashes selected ∧
      (selected ≠ [] → tokensOf selected + item.chunk.tokenCount ≤ tokenBudget) ∧
      (selected.length : Int) < maxItems := by
  unfold refusalOf at free
  split_ifs at free with seen spent full
  refine ⟨seen, ?_, by omega⟩
  intro nonempty
  by_contra beyond
  apply spent
  refine ⟨by simpa using nonempty, ?_⟩
  exact Int.not_le.mp beyond

/-- An item that is not refused keeps the bounds. -/
theorem WithinBounds.append {tokenBudget maxItems : Int} {item : RankedChunk Score}
    (within : WithinBounds tokenBudget maxItems selected)
    (free : refusalOf tokenBudget maxItems selected item = none) :
    WithinBounds tokenBudget maxItems (selected ++ [item]) := by
  rcases refusalOf_eq_none free with ⟨unseen, affordable, room⟩
  constructor
  · rw [contentHashes, List.map_append, List.nodup_append]
    refine ⟨within.distinct, List.nodup_singleton _, ?_⟩
    intro hash member other last same
    have found : hash = item.chunk.contentHash := same.trans (List.mem_singleton.mp last)
    rw [found] at member
    exact unseen member
  · intro _
    rw [List.length_append, List.length_singleton]
    omega
  · intro several
    have nonempty : selected ≠ [] := by
      intro nothing
      rw [nothing] at several
      cases several
      contradiction
    have fits := affordable nonempty
    rw [tokensOf, List.map_append, List.sum_append]
    simpa [tokensOf] using fits

theorem pick_withinBounds {tokenBudget maxItems : Int} (items : List (RankedChunk Score))
    (within : WithinBounds tokenBudget maxItems selected) :
    WithinBounds tokenBudget maxItems (pick tokenBudget maxItems selected items).1 := by
  induction items generalizing selected with
  | nil => exact within
  | cons item rest induction =>
      unfold pick
      split
      · exact induction within
      · rename_i free
        exact induction (within.append free)

/-! ## The evidence -/

/-- A set of evidence as it is promised, out of these candidates, where what is left of them has
these reasons. -/
structure SoundSelection (options : SelectionOptions) (candidates : List (RankedChunk Score))
    (chunks : List (RankedChunk Score)) (omitted : Omissions) : Prop where
  distinct : (contentHashes chunks).Nodup
  count : (chunks.length : Int) ≤ options.maxItems
  tokens : chunks.length ≠ 1 → tokensOf chunks ≤ options.tokenBudget
  oneScope : ∀ item ∈ chunks, ∀ other ∈ chunks,
    documentFamilyKey item = documentFamilyKey other → scope item = scope other
  mostSpecific : ∀ item ∈ chunks, ∀ other ∈ candidates, admits options other = true →
    documentFamilyKey other = documentFamilyKey item → specificity other ≤ specificity item
  oneVersion : ∀ item ∈ chunks, ∀ other ∈ chunks,
    item.chunk.documentId = other.chunk.documentId →
      item.chunk.sectionPath = other.chunk.sectionPath → item.chunk.version = other.chunk.version
  accounted : ∃ left, omitted = recorded left ∧
    (chunks ++ left.map Prod.fst).Perm (candidates.filter (admits options))

theorem sectionConflict_eq_false {items : List (RankedChunk Score)}
    (agree : sectionConflict items = false) :
    ∀ item ∈ items, ∀ other ∈ items, item.chunk.documentId = other.chunk.documentId →
      item.chunk.sectionPath = other.chunk.sectionPath →
      item.chunk.version = other.chunk.version := by
  intro item member other otherMember document path
  by_contra differs
  rw [← Bool.not_eq_true] at agree
  apply agree
  rw [sectionConflict, List.any_eq_true]
  refine ⟨item, member, List.any_eq_true.mpr ⟨other, otherMember, ?_⟩⟩
  simp [document, path, differs]

/-- Evidence that is not refused is not empty, and its sections agree. -/
theorem evidenceOf_answers {eligible selected : List (RankedChunk Score)}
    (answers : (evidenceOf eligible selected).refusalReason = none) :
    selected ≠ [] ∧ sectionConflict eligible = false := by
  unfold evidenceOf at answers
  split at answers
  · cases answers
  · rename_i nonempty
    refine ⟨by simpa using nonempty, ?_⟩
    by_contra conflict
    rw [Bool.not_eq_false] at conflict
    rw [conflict] at answers
    cases answers

/-- A winning scope is the most specific one of its family. -/
theorem winningScopes_mostSpecific {family : List (RankedChunk Score)}
    {item : RankedChunk Score} (single : winningScopes family = [scope item]) :
    ∀ other ∈ family, specificity other ≤ specificity item := by
  have winner : scope item ∈ winningScopes family := by
    rw [single]
    exact List.mem_singleton_self _
  rcases mem_winningScopes.mp winner with ⟨best, _, most, same⟩
  have level : specificity best = specificity item := by
    have plan := congrArg Prod.fst same
    have region := congrArg Prod.snd same
    dsimp only [scope] at plan region
    rw [specificity, specificity, plan, region]
  intro other member
  rw [← level]
  exact most other member

/-- Whatever the candidates and the options, a set that is not refused is as promised. -/
theorem selectEvidence_sound [LinearOrder Score] (doubles : Doubles Score)
    (options : SelectionOptions) (candidates : List (RankedChunk Score))
    (answers : (selectEvidence doubles options candidates).1.refusalReason = none) :
    SoundSelection options candidates (selectEvidence doubles options candidates).1.chunks
      (selectEvidence doubles options candidates).2 := by
  unfold selectEvidence at answers ⊢
  split at answers
  · cases answers
  rename_i winners unspecific scoping
  rcases scopeFamilies_ok scoping with ⟨⟨left, written, account⟩, _, won⟩
  rcases evidenceOf_answers answers with ⟨nonempty, agree⟩
  have sorted := List.perm_insertionSort (evidenceBefore doubles) winners
  rcases pick_account options.tokenBudget options.maxItems []
    (winners.insertionSort (evidenceBefore doubles)) with ⟨passed, reasons, picked⟩
  have within := pick_withinBounds (winners.insertionSort (evidenceBefore doubles))
    (withinBounds_nil options.tokenBudget options.maxItems)
  have chosen : ∀ item ∈ (pick options.tokenBudget options.maxItems []
      (winners.insertionSort (evidenceBefore doubles))).1,
      item ∈ winners.insertionSort (evidenceBefore doubles) := by
    intro item member
    exact picked.mem_iff.mp (List.mem_append_left _ member)
  have scopes : ∀ item ∈ (pick options.tokenBudget options.maxItems []
      (winners.insertionSort (evidenceBefore doubles))).1,
      winningScopes (Grouping.group documentFamilyKey (candidates.filter (admits options))
        (documentFamilyKey item)) = [scope item] := by
    intro item member
    rcases won item (sorted.mem_iff.mp (chosen item member)) with
      ⟨family, familyMember, inFamily, single⟩
    rcases mem_families.mp familyMember with ⟨first, _, same⟩
    rw [same] at inFamily single
    rw [(Grouping.mem_group.mp inFamily).2]
    exact single
  dsimp only
  rw [evidenceOf_chunks]
  constructor
  · exact within.distinct
  · exact within.count nonempty
  · intro several
    have present := List.length_pos_iff.mpr nonempty
    exact within.tokens (by omega)
  · intro item member other otherMember family
    have first := scopes item member
    rw [family, scopes other otherMember] at first
    exact (List.cons.inj first).1.symm
  · intro item member other otherMember admitted family
    apply winningScopes_mostSpecific (scopes item member)
    exact Grouping.mem_group.mpr ⟨List.mem_filter.mpr ⟨otherMember, admitted⟩, family⟩
  · intro item member other otherMember
    exact sectionConflict_eq_false agree item (chosen item member) other
      (chosen other otherMember)
  · refine ⟨left ++ passed, ?_, ?_⟩
    · rw [written, reasons, recorded_append]
    · have whole := families_flatten_perm (candidates.filter (admits options))
      rw [List.map_append]
      have reordered : (left.map Prod.fst ++ passed.map Prod.fst).Perm
          (passed.map Prod.fst ++ left.map Prod.fst) := List.perm_append_comm
      apply (reordered.append_left _).trans
      rw [← List.append_assoc]
      exact ((picked.trans sorted).append_right _).trans (account.trans whole)

end

/-- Two chunks of one family, of which the one for the plan is more specific. -/
def planCandidates : List (RankedChunk Int) :=
  [policyChunk "c1" "limits" (some "pro") none, policyChunk "c2" "limits" none none].map
    (RankedChunk.ofChunk millionths)

def planOptions : SelectionOptions where
  plan := some "pro"
  region := none
  now := ⟨30000000, Instant.halfMinute_inRange⟩
  historical := false
  versionScoped := false

theorem selectEvidence_sound_plan :
    (selectEvidence millionths planOptions planCandidates).1.chunks.map RankedChunk.chunkId =
        ["c1"] ∧
      SoundSelection planOptions planCandidates
        (selectEvidence millionths planOptions planCandidates).1.chunks
        (selectEvidence millionths planOptions planCandidates).2 := by
  refine ⟨by decide, ?_⟩
  exact selectEvidence_sound millionths planOptions planCandidates (by decide)

end Retrieval

end SupportGuard
