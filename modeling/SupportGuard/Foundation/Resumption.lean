import Mathlib.Data.List.Nodup

/-! # Resuming a log

A log whose items carry increasing sequence numbers is read on from a cursor: the number
of the last item that was read. -/

namespace Foundation

namespace Resumption

variable {α : Type} {sequence : α → Int} {log : List α} {cursor : Int}

/-- The items past the cursor. -/
def remaining (sequence : α → Int) (log : List α) (cursor : Int) : List α :=
  log.filter fun item => cursor < sequence item

/-- The cursor after reading some items. -/
def advance (sequence : α → Int) (cursor : Int) (items : List α) : Int :=
  items.foldl (fun _ item => sequence item) cursor

def Increasing (sequence : α → Int) (log : List α) : Prop :=
  log.Pairwise fun early late => sequence early < sequence late

theorem advance_append (cursor : Int) (early late : List α) :
    advance sequence cursor (early ++ late) =
      advance sequence (advance sequence cursor early) late :=
  List.foldl_append

theorem advance_cases (sequence : α → Int) (cursor : Int) (items : List α) :
    advance sequence cursor items = cursor ∨
      ∃ item ∈ items, advance sequence cursor items = sequence item := by
  induction items generalizing cursor with
  | nil => exact .inl rfl
  | cons item items induction =>
      rcases induction (sequence item) with same | ⟨last, member, equal⟩
      · exact .inr ⟨item, List.mem_cons_self, same⟩
      · exact .inr ⟨last, List.mem_cons_of_mem _ member, equal⟩

theorem Increasing.injective (increasing : Increasing sequence log) {left right : α}
    (leftMember : left ∈ log) (rightMember : right ∈ log)
    (equal : sequence left = sequence right) : left = right := by
  have distinct : (log.map sequence).Nodup := by
    apply List.Pairwise.map sequence _ increasing
    intro early late less
    omega
  exact List.inj_on_of_nodup_map distinct leftMember rightMember equal

theorem remaining_prefix {shorter : List α} (early : shorter <+: log) (cursor : Int) :
    remaining sequence shorter cursor <+: remaining sequence log cursor :=
  early.filter _

theorem remaining_of_cons (increasing : Increasing sequence log) {item : α} {rest : List α}
    (equal : remaining sequence log cursor = item :: rest) :
    cursor < sequence item ∧ remaining sequence log (sequence item) = rest := by
  have member : item ∈ remaining sequence log cursor := by
    rw [equal]
    exact List.mem_cons_self
  have later : cursor < sequence item := by
    simpa using (List.mem_filter.mp member).2
  have ordered : (item :: rest).Pairwise fun early late => sequence early < sequence late := by
    rw [← equal]
    exact increasing.filter _
  have narrowed : remaining sequence log (sequence item) =
      (remaining sequence log cursor).filter fun other => sequence item < sequence other := by
    rw [remaining, remaining, List.filter_filter]
    apply List.filter_congr
    intro other _
    simp only [← Bool.decide_and, decide_eq_decide]
    omega
  apply And.intro later
  rw [narrowed, equal, List.filter_cons_of_neg (by simp)]
  rw [List.filter_eq_self]
  intro other present
  exact decide_eq_true ((List.pairwise_cons.mp ordered).1 other present)

/-- Reading the next items leaves the ones after them. -/
theorem remaining_advance (increasing : Increasing sequence log) {page rest : List α}
    (equal : remaining sequence log cursor = page ++ rest) :
    remaining sequence log (advance sequence cursor page) = rest := by
  induction page generalizing cursor with
  | nil => exact equal
  | cons item page induction => exact induction (remaining_of_cons increasing equal).2

theorem le_advance (increasing : Increasing sequence log) {page rest : List α}
    (equal : remaining sequence log cursor = page ++ rest) :
    cursor ≤ advance sequence cursor page ∧
      ∀ item ∈ page, sequence item ≤ advance sequence cursor page := by
  induction page generalizing cursor with
  | nil => exact ⟨Int.le_refl _, by simp⟩
  | cons item page induction =>
      obtain ⟨later, tail⟩ := remaining_of_cons increasing equal
      obtain ⟨grown, bounded⟩ := induction tail
      apply And.intro (Int.le_trans (Int.le_of_lt later) grown)
      intro other present
      rcases List.mem_cons.mp present with rfl | present
      · exact grown
      · exact bounded other present

/-- What was read is what lies between the two cursors. -/
theorem read_eq (increasing : Increasing sequence log) {page : List α} {reached : Int}
    (equal : remaining sequence log cursor = page ++ remaining sequence log reached)
    (advanced : reached = advance sequence cursor page) :
    page = log.filter fun item => cursor < sequence item ∧ sequence item ≤ reached := by
  have bounded := (le_advance increasing equal).2
  rw [← advanced] at bounded
  have cut := congrArg (List.filter fun item => sequence item ≤ reached) equal
  rw [List.filter_append] at cut
  have kept : page.filter (fun item => sequence item ≤ reached) = page := by
    rw [List.filter_eq_self]
    intro item present
    exact decide_eq_true (bounded item present)
  have gone : (remaining sequence log reached).filter
      (fun item => sequence item ≤ reached) = [] := by
    rw [remaining, List.filter_filter, List.filter_eq_nil_iff]
    intro item _
    simp
  rw [kept, gone, List.append_nil, remaining, List.filter_filter] at cut
  rw [← cut]
  apply List.filter_congr
  intro item _
  simp [and_comm]

end Resumption

end Foundation
