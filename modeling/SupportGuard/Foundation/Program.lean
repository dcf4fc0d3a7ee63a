import Mathlib.Logic.Basic
import Mathlib.Order.Defs.Unbundled

/-! # Stateful programs that may raise

A program takes a state and ends with a result or an exception; either way it
leaves a state behind. What an exception undoes is the caller's affair: see
`atomically`. -/

namespace Foundation

def Program (σ ε α : Type) : Type :=
  σ → Except ε α × σ

namespace Program

variable {σ ε α β : Type}

instance : Monad (Program σ ε) where
  pure value := fun state => (.ok value, state)
  bind first next := fun state =>
    match first state with
    | (.ok value, middle) => next value middle
    | (.error error, middle) => (.error error, middle)

/-- Look at the state. -/
def reads (view : σ → α) : Program σ ε α :=
  fun state => (.ok (view state), state)

def modify (change : σ → σ) : Program σ ε Unit :=
  fun state => (.ok (), change state)

def raise (error : ε) : Program σ ε α :=
  fun state => (.error error, state)

/-- Raise `error` when `condition` holds. -/
def refuseWhen (condition : Prop) [Decidable condition] (error : ε) :
    Program σ ε Unit :=
  if condition then raise error else pure ()

/-- The value of an option; raise `error` when there is none. -/
def require (value : Option α) (error : ε) : Program σ ε α :=
  match value with
  | some present => pure present
  | none => raise error

/-- Run a program on a value that is there. -/
def whenSome (value : Option α) (program : α → Program σ ε Unit) : Program σ ε Unit :=
  match value with
  | some present => program present
  | none => pure ()

/-- Run a program when `condition` holds. -/
def onlyIf (condition : Prop) [Decidable condition] (program : Program σ ε Unit) :
    Program σ ε Unit :=
  if condition then program else pure ()

/-- A computation without state. -/
def ofExcept (outcome : Except ε α) : Program σ ε α :=
  fun state => (outcome, state)

/-- Forget the result. -/
def forgetResult (program : Program σ ε α) : Program σ ε Unit := do
  let _ ← program
  pure ()

/-- Change the exceptions of a program. -/
def mapError {ε' : Type} (wrap : ε → ε') (program : Program σ ε α) : Program σ ε' α :=
  fun state =>
    match program state with
    | (.ok value, final) => (.ok value, final)
    | (.error error, final) => (.error (wrap error), final)

/-- Handle the exceptions of a kind. -/
def rescue (program : Program σ ε α) (caught : ε → Bool) (handler : ε → Program σ ε α) :
    Program σ ε α := fun state =>
  match program state with
  | (.ok value, final) => (.ok value, final)
  | (.error error, final) =>
      if caught error then handler error final else (.error error, final)

/-- Run a program on a part of the state. -/
def onPart {τ : Type} (part : τ → σ) (put : τ → σ → τ) (program : Program σ ε α) :
    Program τ ε α := fun state =>
  match program (part state) with
  | (outcome, final) => (outcome, put state final)

/-- Run as one transaction: an exception leaves the state as it was. -/
def atomically (program : Program σ ε α) : Program σ ε α := fun state =>
  match program state with
  | (.ok value, final) => (.ok value, final)
  | (.error error, _) => (.error error, state)

/-! ## Inversion

What is known about the parts of a program once the whole has returned. -/

/-- The program returns `value` and leaves `final`. -/
def Returns (program : Program σ ε α) (initial : σ) (value : α) (final : σ) : Prop :=
  program initial = (.ok value, final)

variable {program : Program σ ε α}

theorem returns_of_isOk {initial : σ} (succeeds : (program initial).1.isOk = true) :
    ∃ result, program.Returns initial result (program initial).2 := by
  cases ran : program initial with
  | mk outcome final =>
      rw [ran] at succeeds
      cases outcome with
      | error error => cases succeeds
      | ok result => exact ⟨result, ran⟩

/-- A run whose outcome passes a check that is evaluated. -/
theorem returns_of_check {initial : σ} {check : α → σ → Bool}
    (passes : ((program initial).1.toOption.any fun result =>
      check result (program initial).2) = true) :
    ∃ result final, program.Returns initial result final ∧ check result final = true := by
  cases ran : program initial with
  | mk outcome final =>
      rw [ran] at passes
      cases outcome with
      | error error => cases passes
      | ok result => exact ⟨result, final, ran, passes⟩

variable {initial final : σ} {next : α → Program σ ε β} {result : β} {first : Program σ ε α}

theorem returns_bind :
    (first >>= next).Returns initial result final ↔
      ∃ value middle, first.Returns initial value middle ∧
        (next value).Returns middle result final := by
  simp only [Returns, bind]
  cases ran : first initial with
  | mk outcome middle =>
      cases outcome with
      | ok value =>
          constructor
          · intro returned
            exact ⟨value, middle, rfl, returned⟩
          · rintro ⟨other, state, equal, returned⟩
            cases equal
            exact returned
      | error error => simp

theorem returns_pure {value result : α} :
    (pure value : Program σ ε α).Returns initial result final ↔
      result = value ∧ final = initial := by
  simp [Returns, pure, eq_comm]

theorem returns_reads {view : σ → α} {result : α} :
    (reads view : Program σ ε α).Returns initial result final ↔
      result = view initial ∧ final = initial := by
  simp [Returns, reads, eq_comm]

variable {change : σ → σ}

theorem returns_modify {result : Unit} :
    (modify change : Program σ ε Unit).Returns initial result final ↔
      final = change initial := by
  simp [Returns, modify, eq_comm]

variable {error : ε}

theorem returns_raise {result : α} :
    ¬(raise error : Program σ ε α).Returns initial result final := by
  simp [Returns, raise]

variable {condition : Prop}

theorem returns_refuseWhen [Decidable condition] {result : Unit} :
    (refuseWhen condition error : Program σ ε Unit).Returns initial result final ↔
      ¬condition ∧ final = initial := by
  by_cases holds : condition
  · simp [refuseWhen, holds, returns_raise]
  · simp [refuseWhen, holds, returns_pure]

variable {value : Option α}

theorem returns_require {result : α} :
    (require value error : Program σ ε α).Returns initial result final ↔
      value = some result ∧ final = initial := by
  cases value with
  | none => simp [require, returns_raise]
  | some present => simp [require, returns_pure, eq_comm]

theorem returns_onlyIf [Decidable condition] {program : Program σ ε Unit} {result : Unit} :
    (onlyIf condition program).Returns initial result final ↔
      if condition then program.Returns initial result final else final = initial := by
  unfold onlyIf
  split
  · rfl
  · simp [returns_pure]

theorem returns_ofExcept {outcome : Except ε α} {result : α} :
    (ofExcept outcome : Program σ ε α).Returns initial result final ↔
      outcome = .ok result ∧ final = initial := by
  simp [Returns, ofExcept, eq_comm]

theorem returns_atomically {result : α} :
    (atomically program).Returns initial result final ↔
      program.Returns initial result final := by
  simp only [Returns, atomically]
  cases ran : program initial with
  | mk outcome middle => cases outcome <;> simp

theorem returns_forgetResult {result : Unit} :
    (forgetResult program).Returns initial result final ↔
      ∃ value, program.Returns initial value final := by
  simp [forgetResult, returns_bind, returns_pure]

/-! A first part that changes nothing is taken off the front. -/

/-- The whole state is read. -/
theorem returns_readsId_bind {next : σ → Program σ ε β} :
    (reads id >>= next).Returns initial result final ↔
      (next initial).Returns initial result final :=
  Iff.rfl

theorem returns_modify_bind {next : Unit → Program σ ε β} :
    (modify change >>= next).Returns initial result final ↔
      (next ()).Returns (change initial) result final :=
  Iff.rfl

theorem returns_refuseWhen_bind [Decidable condition] {next : Unit → Program σ ε β} :
    (refuseWhen condition error >>= next).Returns initial result final ↔
      ¬condition ∧ (next ()).Returns initial result final := by
  by_cases holds : condition
  · simp [returns_bind, returns_refuseWhen, holds]
  · simp only [refuseWhen, holds, if_false, not_false_eq_true, true_and]
    exact Iff.rfl

theorem returns_require_bind :
    (require value error >>= next).Returns initial result final ↔
      ∃ present, value = some present ∧ (next present).Returns initial result final := by
  simp [returns_bind, returns_require, and_assoc]

theorem returns_ofExcept_bind {outcome : Except ε α} :
    (ofExcept outcome >>= next).Returns initial result final ↔
      ∃ value, outcome = .ok value ∧ (next value).Returns initial result final := by
  simp [returns_bind, returns_ofExcept, and_assoc]

/-! The same, from the parts to the whole. -/

theorem returns_of_bind {initial middle final : σ} {value : α}
    (ran : first.Returns initial value middle) (rest : (next value).Returns middle result final) :
    (first >>= next).Returns initial result final :=
  returns_bind.mpr ⟨value, middle, ran, rest⟩

theorem returns_of_refuseWhen [Decidable condition] {next : Unit → Program σ ε β}
    (passes : ¬condition) (rest : (next ()).Returns initial result final) :
    (refuseWhen condition error >>= next).Returns initial result final :=
  returns_refuseWhen_bind.mpr ⟨passes, rest⟩

theorem returns_of_require {present : α} (found : value = some present)
    (rest : (next present).Returns initial result final) :
    (require value error >>= next).Returns initial result final :=
  returns_require_bind.mpr ⟨present, found, rest⟩

theorem returns_of_ofExcept {outcome : Except ε α} {value : α} (computed : outcome = .ok value)
    (rest : (next value).Returns initial result final) :
    (ofExcept outcome >>= next).Returns initial result final :=
  returns_ofExcept_bind.mpr ⟨value, computed, rest⟩

/-- A transaction either returns as its body does or changes nothing. -/
theorem atomically_cases (program : Program σ ε α) (initial : σ) :
    (∃ value final, program.Returns initial value final ∧
        atomically program initial = (.ok value, final)) ∨
      ∃ error, atomically program initial = (.error error, initial) := by
  unfold atomically
  cases ran : program initial with
  | mk outcome final =>
      cases outcome with
      | ok value => exact .inl ⟨value, final, ran, rfl⟩
      | error error => exact .inr ⟨error, rfl⟩

theorem returns_mapError {ε' : Type} {wrap : ε → ε'} {result : α} :
    (mapError wrap program).Returns initial result final ↔
      program.Returns initial result final := by
  simp only [Returns, mapError]
  cases ran : program initial with
  | mk outcome middle => cases outcome <;> simp

theorem returns_onPart {τ : Type} {part : τ → σ} {put : τ → σ → τ} {initial final : τ}
    {result : α} :
    (onPart part put program).Returns initial result final ↔
      ∃ after, program.Returns (part initial) result after ∧ final = put initial after := by
  simp only [Returns, onPart]
  cases ran : program (part initial) with
  | mk outcome after =>
      constructor
      · intro equal
        cases equal
        exact ⟨after, rfl, rfl⟩
      · intro found
        rcases found with ⟨state, equal, rfl⟩
        cases equal
        rfl

/-! ## Frames

A program keeps a view of the state when it leaves it unchanged however it ends. -/

def Keeps {β : Type*} (view : σ → β) (program : Program σ ε α) : Prop :=
  ∀ state, view (program state).2 = view state

section Keeps

variable {ν : Type*} {view : σ → ν}

theorem Keeps.returns {program : Program σ ε α} (keeps : Keeps view program)
    {initial final : σ} {result : α} (returned : program.Returns initial result final) :
    view final = view initial := by
  have kept := keeps initial
  rw [show program initial = (.ok result, final) from returned] at kept
  exact kept

theorem keeps_pure (value : α) : Keeps view (pure value : Program σ ε α) :=
  fun _ => rfl

theorem keeps_bind {first : Program σ ε α} {next : α → Program σ ε β}
    (keepsFirst : Keeps view first) (keepsNext : ∀ value, Keeps view (next value)) :
    Keeps view (first >>= next) := by
  intro state
  have kept := keepsFirst state
  simp only [bind]
  cases ran : first state with
  | mk outcome middle =>
      rw [ran] at kept
      cases outcome with
      | ok value => exact (keepsNext value middle).trans kept
      | error error => exact kept

theorem keeps_reads (read : σ → α) : Keeps view (reads read : Program σ ε α) :=
  fun _ => rfl

theorem keeps_modify {change : σ → σ} (unchanged : ∀ state, view (change state) = view state) :
    Keeps view (modify change : Program σ ε Unit) :=
  unchanged

theorem keeps_raise (error : ε) : Keeps view (raise error : Program σ ε α) :=
  fun _ => rfl

theorem keeps_refuseWhen (condition : Prop) [Decidable condition] (error : ε) :
    Keeps view (refuseWhen condition error : Program σ ε Unit) := by
  unfold refuseWhen
  split
  · exact keeps_raise error
  · exact keeps_pure ()

/-- A check that passes changes nothing before what follows. -/
theorem keeps_refuseWhen_bind {condition : Prop} [Decidable condition] {error : ε}
    {next : Unit → Program σ ε β} (keepsNext : Keeps view (next ())) :
    Keeps view (refuseWhen condition error >>= next) :=
  keeps_bind (keeps_refuseWhen condition error) fun _ => keepsNext

theorem keeps_require (value : Option α) (error : ε) :
    Keeps view (require value error : Program σ ε α) := by
  cases value with
  | none => exact keeps_raise error
  | some present => exact keeps_pure present

theorem keeps_ofExcept (outcome : Except ε α) :
    Keeps view (ofExcept outcome : Program σ ε α) :=
  fun _ => rfl

theorem keeps_mapError {ε' : Type} {wrap : ε → ε'} {program : Program σ ε α}
    (keeps : Keeps view program) : Keeps view (mapError wrap program) := by
  intro state
  have kept := keeps state
  unfold mapError
  cases ran : program state with
  | mk outcome middle =>
      rw [ran] at kept
      cases outcome <;> exact kept

theorem keeps_ite {condition : Prop} [Decidable condition] {first second : Program σ ε α}
    (keepsFirst : Keeps view first) (keepsSecond : Keeps view second) :
    Keeps view (if condition then first else second) := by
  split
  · exact keepsFirst
  · exact keepsSecond

theorem keeps_rescue {program : Program σ ε α} {caught : ε → Bool}
    {handler : ε → Program σ ε α} (keeps : Keeps view program)
    (keepsHandler : ∀ error, Keeps view (handler error)) :
    Keeps view (rescue program caught handler) := by
  intro state
  have kept := keeps state
  unfold rescue
  cases ran : program state with
  | mk outcome middle =>
      rw [ran] at kept
      cases outcome with
      | ok value => exact kept
      | error error =>
          dsimp only
          split
          · exact (keepsHandler error middle).trans kept
          · exact kept

theorem keeps_whenSome (value : Option α) {program : α → Program σ ε Unit}
    (keeps : ∀ present, Keeps view (program present)) :
    Keeps view (whenSome value program) := by
  cases value with
  | none => exact keeps_pure ()
  | some present => exact keeps present

theorem keeps_onlyIf (condition : Prop) [Decidable condition] {program : Program σ ε Unit}
    (keeps : Keeps view program) : Keeps view (onlyIf condition program) :=
  keeps_ite keeps (keeps_pure ())

end Keeps

/-! ## Invariants

A program maintains an invariant when every state it returns in has it. -/

def Maintains (invariant : σ → Prop) (program : Program σ ε α) : Prop :=
  ∀ ⦃initial : σ⦄ ⦃result : α⦄ ⦃final : σ⦄, program.Returns initial result final →
    invariant initial → invariant final

section Maintains

variable {invariant : σ → Prop}

theorem maintains_bind {first : Program σ ε α} {next : α → Program σ ε β}
    (maintainsFirst : Maintains invariant first)
    (maintainsNext : ∀ value, Maintains invariant (next value)) :
    Maintains invariant (first >>= next) := by
  intro initial result final returned holds
  rcases returns_bind.mp returned with ⟨value, middle, ranFirst, ranNext⟩
  exact maintainsNext value ranNext (maintainsFirst ranFirst holds)

theorem maintains_ite {condition : Prop} [Decidable condition]
    {first second : Program σ ε α} (maintainsFirst : Maintains invariant first)
    (maintainsSecond : Maintains invariant second) :
    Maintains invariant (if condition then first else second) := by
  split
  · exact maintainsFirst
  · exact maintainsSecond

/-- An invariant of a view is maintained by what keeps the view. -/
theorem Keeps.maintains {ν : Type*} {view : σ → ν} {program : Program σ ε α}
    (keeps : Keeps view program) (holds : ν → Prop) :
    Maintains (fun state => holds (view state)) program := by
  intro initial result final returned before
  have same : view final = view initial := keeps.returns returned
  show holds (view final)
  rw [same]
  exact before

end Maintains

/-! ## Transitions

A program stays in a relation when every state it returns in is related to the one it
was started in. -/

def Relates (relation : σ → σ → Prop) (program : Program σ ε α) : Prop :=
  ∀ ⦃initial : σ⦄ ⦃result : α⦄ ⦃final : σ⦄, program.Returns initial result final →
    relation initial final

section Relates

variable {relation : σ → σ → Prop}

theorem relates_pure [Std.Refl relation] (value : α) :
    Relates relation (pure value : Program σ ε α) := by
  intro initial result final returned
  rcases returns_pure.mp returned with ⟨_, rfl⟩
  exact Std.Refl.refl final

theorem relates_bind [IsTrans σ relation] {first : Program σ ε α}
    {next : α → Program σ ε β} (relatesFirst : Relates relation first)
    (relatesNext : ∀ value, Relates relation (next value)) :
    Relates relation (first >>= next) := by
  intro initial result final returned
  rcases returns_bind.mp returned with ⟨value, middle, ranFirst, ranNext⟩
  exact IsTrans.trans _ _ _ (relatesFirst ranFirst) (relatesNext value ranNext)

theorem relates_ite {condition : Prop} [Decidable condition] {first second : Program σ ε α}
    (relatesFirst : Relates relation first) (relatesSecond : Relates relation second) :
    Relates relation (if condition then first else second) := by
  split
  · exact relatesFirst
  · exact relatesSecond

theorem relates_modify {change : σ → σ} (related : ∀ state, relation state (change state)) :
    Relates relation (modify change : Program σ ε Unit) := by
  intro initial result final returned
  rw [returns_modify.mp returned]
  exact related initial

theorem relates_forgetResult {program : Program σ ε α} (relates : Relates relation program) :
    Relates relation (forgetResult program) := by
  intro initial result final returned
  rcases returns_forgetResult.mp returned with ⟨value, ran⟩
  exact relates ran

/-- What changes nothing stays in every reflexive relation. -/
theorem Keeps.relates [Std.Refl relation] {program : Program σ ε α}
    (keeps : Keeps (fun state => state) program) : Relates relation program := by
  intro initial result final returned
  rw [show final = initial from keeps.returns returned]
  exact Std.Refl.refl initial

end Relates

/-! ## Exceptions -/

/-- The program raises `error` and leaves `final`. -/
def Raises (program : Program σ ε α) (initial : σ) (error : ε) (final : σ) : Prop :=
  program initial = (.error error, final)

theorem raises_bind :
    (first >>= next).Raises initial error final ↔
      first.Raises initial error final ∨
        ∃ value middle, first.Returns initial value middle ∧
          (next value).Raises middle error final := by
  simp only [Raises, Returns, bind]
  cases ran : first initial with
  | mk outcome middle =>
      cases outcome with
      | ok value => simp [and_assoc]
      | error other => simp

theorem raises_pure {value : α} :
    ¬(pure value : Program σ ε α).Raises initial error final := by
  simp [Raises, pure]

theorem raises_reads {view : σ → α} :
    ¬(reads view : Program σ ε α).Raises initial error final := by
  simp [Raises, reads]

theorem raises_modify :
    ¬(modify change : Program σ ε Unit).Raises initial error final := by
  simp [Raises, modify]

theorem raises_raise {raised error : ε} :
    (raise raised : Program σ ε α).Raises initial error final ↔
      error = raised ∧ final = initial := by
  simp [Raises, raise, eq_comm]

theorem raises_refuseWhen [Decidable condition] {raised error : ε} :
    (refuseWhen condition raised : Program σ ε Unit).Raises initial error final ↔
      condition ∧ error = raised ∧ final = initial := by
  by_cases holds : condition
  · simp [refuseWhen, holds, raises_raise]
  · simp [refuseWhen, holds, raises_pure]

theorem raises_require {raised error : ε} :
    (require value raised : Program σ ε α).Raises initial error final ↔
      value = none ∧ error = raised ∧ final = initial := by
  cases value with
  | none => simp [require, raises_raise]
  | some present => simp [require, raises_pure]

theorem raises_readsId_bind {next : σ → Program σ ε β} :
    (reads id >>= next).Raises initial error final ↔
      (next initial).Raises initial error final := by
  rfl

theorem raises_modify_bind {next : Unit → Program σ ε β} :
    (modify change >>= next).Raises initial error final ↔
      (next ()).Raises (change initial) error final := by
  rfl

/-- A check raises where its condition holds, and passes the state on elsewhere. -/
theorem raises_refuseWhen_bind [Decidable condition] {raised error : ε}
    {next : Unit → Program σ ε β} :
    (refuseWhen condition raised >>= next).Raises initial error final ↔
      condition ∧ error = raised ∧ final = initial ∨
        ¬condition ∧ (next ()).Raises initial error final := by
  rw [raises_bind, raises_refuseWhen]
  simp only [returns_refuseWhen]
  constructor
  · intro cases
    rcases cases with refused | ⟨_, middle, ⟨passed, rfl⟩, later⟩
    · exact .inl refused
    · exact .inr ⟨passed, later⟩
  · intro cases
    rcases cases with refused | ⟨passed, later⟩
    · exact .inl refused
    · exact .inr ⟨(), initial, ⟨passed, rfl⟩, later⟩

theorem raises_require_bind {raised error : ε} :
    (require value raised >>= next).Raises initial error final ↔
      value = none ∧ error = raised ∧ final = initial ∨
        ∃ present, value = some present ∧ (next present).Raises initial error final := by
  cases value with
  | none => simp [raises_bind, raises_require, returns_require]
  | some present => simp [raises_bind, raises_require, returns_require, and_assoc]

theorem Keeps.raises {ν : Type*} {view : σ → ν} (keeps : Keeps view program)
    (raised : program.Raises initial error final) : view final = view initial := by
  have kept := keeps initial
  rw [show program initial = (.error error, final) from raised] at kept
  exact kept

/-- The exceptions of a kind leave a view of the state as it was. -/
def RefusesCleanly {ν : Type*} (view : σ → ν) (refusal : ε → Prop)
    (program : Program σ ε α) : Prop :=
  ∀ ⦃initial : σ⦄ ⦃error : ε⦄ ⦃final : σ⦄, program.Raises initial error final →
    refusal error → view final = view initial

section RefusesCleanly

variable {ν : Type*} {view : σ → ν} {refusal : ε → Prop}

theorem Keeps.refusesCleanly {program : Program σ ε α} (keeps : Keeps view program) :
    RefusesCleanly view refusal program :=
  fun _ _ _ raised _ => keeps.raises raised

theorem refusesCleanly_modify (change : σ → σ) :
    RefusesCleanly view refusal (modify change : Program σ ε Unit) :=
  fun _ _ _ raised _ => absurd raised raises_modify

theorem refusesCleanly_bind {first : Program σ ε α} {next : α → Program σ ε β}
    (keepsFirst : Keeps view first)
    (cleanNext : ∀ value, RefusesCleanly view refusal (next value)) :
    RefusesCleanly view refusal (first >>= next) := by
  intro initial error final raised refused
  rcases raises_bind.mp raised with early | ⟨value, middle, returned, late⟩
  · exact keepsFirst.raises early
  · exact (cleanNext value late refused).trans (keepsFirst.returns returned)

/-- Once the first part has returned, the second one no longer refuses. -/
theorem refusesCleanly_bind_last {first : Program σ ε α} {next : α → Program σ ε β}
    (cleanFirst : RefusesCleanly view refusal first)
    (last : ∀ ⦃initial value middle error final⦄, first.Returns initial value middle →
      (next value).Raises middle error final → ¬refusal error) :
    RefusesCleanly view refusal (first >>= next) := by
  intro initial error final raised refused
  rcases raises_bind.mp raised with early | ⟨value, middle, returned, late⟩
  · exact cleanFirst early refused
  · exact absurd refused (last returned late)

end RefusesCleanly

theorem bind_of_error (raised : first.Raises initial error final) :
    (first >>= next).Raises initial error final :=
  raises_bind.mpr (.inl raised)

theorem raises_of_bind {initial middle final : σ} {value : α}
    (ran : first.Returns initial value middle) (rest : (next value).Raises middle error final) :
    (first >>= next).Raises initial error final :=
  raises_bind.mpr (.inr ⟨value, middle, ran, rest⟩)

theorem raises_atomically (raised : program.Raises initial error final) :
    (atomically program).Raises initial error initial := by
  simp only [Raises, atomically, show program initial = (.error error, final) from raised]

theorem forgetResult_raises :
    (forgetResult program).Raises initial error final ↔
      program.Raises initial error final := by
  simp [forgetResult, raises_bind, raises_pure]

end Program

end Foundation
