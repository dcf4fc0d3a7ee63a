import Mathlib.Data.List.Perm.Basic

/-! # Computations that may raise

Inversion rules for `Except`: what is known once a computation has returned. -/

namespace Foundation

namespace Fallible

variable {ε α β : Type}

theorem bind_eq_ok_iff {first : Except ε α} {next : α → Except ε β} {result : β} :
    (first >>= next) = .ok result ↔
      ∃ value, first = .ok value ∧ next value = .ok result := by
  cases first <;> simp [bind, Except.bind]

/-- A computation returns when its first part does and the rest returns from there. -/
theorem bind_returns {first : Except ε α} {next : α → Except ε β} {value : α}
    (start : first = .ok value) (rest : ∃ result, next value = .ok result) :
    ∃ result, (first >>= next) = .ok result := by
  rw [start]
  exact rest

variable {outcome : Except ε α}

/-- An outcome without its exception is a value just when that was returned. -/
theorem toOption_eq_some {value : α} (found : outcome.toOption = some value) :
    outcome = .ok value := by
  cases outcome with
  | error error => cases found
  | ok result => exact congrArg Except.ok (Option.some.inj found)

theorem toOption_eq_some_iff {value : α} :
    outcome.toOption = some value ↔ outcome = .ok value := by
  constructor
  · exact toOption_eq_some
  · intro returned
    rw [returned]
    rfl

theorem ok_of_any {check : α → Bool} (holds : outcome.toOption.any check = true) :
    ∃ value, outcome = .ok value ∧ check value = true := by
  cases outcome with
  | error error => cases holds
  | ok value => exact ⟨value, rfl, holds⟩

theorem error_of_map {change : α → β} {error : ε} (raised : outcome.map change = .error error) :
    outcome = .error error := by
  cases outcome with
  | error other => exact congrArg Except.error (Except.error.inj raised)
  | ok value => cases raised

theorem mapError_eq_ok {δ : Type} {change : ε → δ} {value : α}
    (returned : outcome.mapError change = .ok value) : outcome = .ok value := by
  cases outcome with
  | error error => cases returned
  | ok other => exact congrArg Except.ok (Except.ok.inj returned)

/-- Raise `error` when `condition` holds. -/
def refuseWhen (condition : Prop) [Decidable condition] (error : ε) :
    Except ε Unit :=
  if condition then .error error else .ok ()

theorem refuseWhen_bind {condition : Prop} [Decidable condition] {error : ε}
    {next : Unit → Except ε α} :
    (refuseWhen condition error >>= next) = if condition then .error error else next () := by
  by_cases holds : condition <;> simp [refuseWhen, holds, bind, Except.bind]

theorem refuseWhen_eq_ok_iff {condition : Prop} [Decidable condition] {error : ε}
    {result : Unit} : refuseWhen condition error = .ok result ↔ ¬condition := by
  by_cases holds : condition <;> simp [refuseWhen, holds]

/-- A computation behind a guard returns exactly when the guard lets it pass and
it returns itself. -/
theorem refuseWhen_bind_eq_ok_iff {condition : Prop} [Decidable condition] {error : ε}
    {next : Unit → Except ε α} {result : α} :
    (refuseWhen condition error >>= next) = .ok result ↔
      ¬condition ∧ next () = .ok result := by
  by_cases holds : condition <;> simp [refuseWhen, holds, bind, Except.bind]

theorem exists_of_forall₂ {relation : α → β → Prop} {inputs : List α} {results : List β}
    (each : List.Forall₂ relation inputs results) {result : β} (member : result ∈ results) :
    ∃ input ∈ inputs, relation input result := by
  induction each with
  | nil => cases member
  | cons first _ induction =>
      rcases List.mem_cons.mp member with same | later
      · exact ⟨_, List.mem_cons_self, same ▸ first⟩
      · rcases induction later with ⟨input, found, related⟩
        exact ⟨input, List.mem_cons_of_mem _ found, related⟩

variable {compute : α → Except ε β}

/-- The results of a loop stand in the order of its inputs. -/
theorem mapM_forall₂ :
    ∀ {inputs : List α} {results : List β}, inputs.mapM compute = .ok results →
      List.Forall₂ (fun input result => compute input = .ok result) inputs results
  | [], _, mapped => by
      cases mapped
      exact .nil
  | input :: rest, _, mapped => by
      simp only [List.mapM_cons, bind_eq_ok_iff] at mapped
      rcases mapped with ⟨first, computed, later, laterMapped, equal⟩
      cases equal
      exact .cons computed (mapM_forall₂ laterMapped)

theorem mapM_eq_ok_iff {inputs : List α} {results : List β} :
    inputs.mapM compute = .ok results ↔
      List.Forall₂ (fun input result => compute input = .ok result) inputs results := by
  constructor
  · exact mapM_forall₂
  · intro each
    induction each with
    | nil => rfl
    | cons computed _ mapped =>
        simp only [List.mapM_cons, bind_eq_ok_iff]
        exact ⟨_, computed, _, mapped, rfl⟩

/-- In another order the inputs give the same results in another order. -/
theorem mapM_perm {inputs inputs' : List α} {results : List β} (same : inputs.Perm inputs')
    (mapped : inputs.mapM compute = .ok results) :
    ∃ results', inputs'.mapM compute = .ok results' ∧ results'.Perm results := by
  rcases List.perm_comp_forall₂ same.symm (mapM_eq_ok_iff.mp mapped) with ⟨results', each, order⟩
  exact ⟨results', mapM_eq_ok_iff.mpr each, order⟩

theorem mapM_congr_ok {compute compute' : α → Except ε β} {inputs : List α} {results : List β}
    (same : ∀ input ∈ inputs, ∀ result, compute input = .ok result ↔
      compute' input = .ok result) :
    inputs.mapM compute = .ok results ↔ inputs.mapM compute' = .ok results := by
  induction inputs generalizing results with
  | nil => rfl
  | cons input rest induction =>
      have later := fun results => @induction results fun other member =>
        same other (List.mem_cons_of_mem _ member)
      simp only [List.mapM_cons, bind_eq_ok_iff, same input List.mem_cons_self, later]

theorem mem_of_mapM {result : β} :
    ∀ {inputs : List α} {results : List β}, inputs.mapM compute = .ok results →
      result ∈ results → ∃ input ∈ inputs, compute input = .ok result
  | [], _, mapped, member => by
      cases mapped
      exact absurd member List.not_mem_nil
  | input :: inputs, _, mapped, member => by
      simp only [List.mapM_cons, bind_eq_ok_iff] at mapped
      rcases mapped with ⟨first, computed, later, laterMapped, equal⟩
      cases equal
      rw [List.mem_cons] at member
      obtain same | rest := member
      · exact ⟨input, List.mem_cons_self, same ▸ computed⟩
      · obtain ⟨other, found, otherComputed⟩ := mem_of_mapM laterMapped rest
        exact ⟨other, List.mem_cons_of_mem _ found, otherComputed⟩

theorem mapM_returns :
    ∀ {inputs : List α}, (∀ input ∈ inputs, ∃ result, compute input = .ok result) →
      ∃ results, inputs.mapM compute = .ok results
  | [], _ => ⟨[], rfl⟩
  | input :: inputs, returns => by
      obtain ⟨first, computed⟩ := returns input List.mem_cons_self
      obtain ⟨later, mapped⟩ := mapM_returns fun other member =>
        returns other (List.mem_cons_of_mem _ member)
      refine ⟨first :: later, ?_⟩
      simp only [List.mapM_cons, bind_eq_ok_iff]
      exact ⟨first, computed, later, mapped, rfl⟩

theorem mapM_returns_iff {inputs : List α} :
    (∃ results, inputs.mapM compute = .ok results) ↔
      ∀ input ∈ inputs, ∃ result, compute input = .ok result := by
  constructor
  · intro returns input member
    rcases returns with ⟨results, mapped⟩
    rcases List.get_of_mem member with ⟨index, rfl⟩
    rcases List.forall₂_iff_get.mp (mapM_forall₂ mapped) with ⟨sameLength, each⟩
    exact ⟨_, each index.1 index.2 (by omega)⟩
  · exact mapM_returns

theorem mapM_option_forall₂ {Source Value : Type} {value : Source → Option Value} :
    ∀ {sources : List Source} {results : List Value}, sources.mapM value = some results →
      List.Forall₂ (fun source result => value source = some result) sources results
  | [], _, mapped => by
      cases mapped
      exact .nil
  | source :: rest, results, mapped => by
      simp only [List.mapM_cons, Option.bind_eq_bind, Option.bind_eq_some_iff,
        Option.pure_def, Option.some.injEq] at mapped
      rcases mapped with ⟨first, found, later, laterMapped, rfl⟩
      exact .cons found (mapM_option_forall₂ laterMapped)

theorem mapM_isSome_iff {Source Value : Type} {value : Source → Option Value}
    {items : List Source} : (items.mapM value).isSome ↔ ∀ item ∈ items, (value item).isSome := by
  induction items with
  | nil => simp
  | cons item rest induction =>
      rw [List.mapM_cons]
      cases first : value item with
      | none => simp [first]
      | some result => cases following : rest.mapM value <;> simp_all

theorem mem_of_mapM_option {Source Value : Type} {value : Source → Option Value}
    {sources : List Source} {result : Value} (member : result ∈ (sources.mapM value).getD []) :
    ∃ source ∈ sources, value source = some result := by
  cases mapped : sources.mapM value with
  | none =>
      rw [mapped] at member
      cases member
  | some results =>
      rw [mapped] at member
      have each := mapM_option_forall₂ mapped
      clear mapped
      induction each with
      | nil => cases member
      | cons found _ later =>
          rcases List.mem_cons.mp member with rfl | rest
          · exact ⟨_, .head _, found⟩
          · obtain ⟨source, among, same⟩ := later rest
            exact ⟨source, .tail _ among, same⟩

end Fallible

end Foundation
