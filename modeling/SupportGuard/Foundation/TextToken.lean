import Mathlib.Data.List.Forall2

/-! # Words between edges

A word that stands in a text with given edges: what a search for a literal between two
one-character lookarounds finds. -/

namespace Foundation

namespace TextToken

section

variable {Character : Type} (same : Character → Character → Bool)

/-- What follows a word at the beginning of a text. -/
def after? : List Character → List Character → Option (List Character)
  | [], text => some text
  | _ :: _, [] => none
  | first :: word, character :: text =>
      if same first character then after? word text else none

/-- The word stands in the text, and its neighbours are such edges; the end of the text has no
neighbour. -/
def Stands (left right : Option Character → Bool) (word text : List Character) : Prop :=
  ∃ before found after, text = before ++ found ++ after ∧
    List.Forall₂ (fun expected character => same expected character = true) word found ∧
    left before.getLast? = true ∧ right after.head? = true

/-- The search, with what stands before the text. -/
def find (left right : Option Character → Bool) (word : List Character) :
    Option Character → List Character → Bool
  | previous, text =>
      (left previous && (after? same word text).any fun rest => right rest.head?) ||
        match text with
        | [] => false
        | character :: rest => find left right word (some character) rest

variable {same}

theorem after?_eq_some_iff {word text rest : List Character} :
    after? same word text = some rest ↔
      ∃ found, text = found ++ rest ∧
        List.Forall₂ (fun expected character => same expected character = true) word found := by
  induction word generalizing text with
  | nil =>
      rw [after?, Option.some.injEq]
      constructor
      · intro equal
        exact ⟨[], equal, .nil⟩
      · intro split
        rcases split with ⟨found, rfl, each⟩
        cases each
        rfl
  | cons first word induction =>
      cases text with
      | nil =>
          rw [after?]
          constructor
          · intro none
            cases none
          · intro split
            rcases split with ⟨found, empty, each⟩
            cases each
            cases empty
      | cons character text =>
          rw [after?]
          constructor
          · intro equal
            split at equal
            · rename_i matching
              rcases induction.mp equal with ⟨found, rfl, each⟩
              exact ⟨character :: found, rfl, .cons matching each⟩
            · cases equal
          · intro split
            rcases split with ⟨found, equal, each⟩
            cases each with
            | cons matching each =>
                cases equal
                rw [if_pos matching]
                exact induction.mpr ⟨_, rfl, each⟩

variable {left right : Option Character → Bool}

theorem first_iff {word : List Character} {previous : Option Character} {text : List Character} :
    (left previous && (after? same word text).any fun rest => right rest.head?) = true ↔
      ∃ found after, text = found ++ after ∧
        List.Forall₂ (fun expected character => same expected character = true) word found ∧
        left previous = true ∧ right after.head? = true := by
  rw [Bool.and_eq_true, Option.any_eq_true]
  constructor
  · intro stands
    rcases stands with ⟨edge, rest, split, fits⟩
    rcases after?_eq_some_iff.mp split with ⟨found, equal, each⟩
    exact ⟨found, rest, equal, each, edge, fits⟩
  · intro stands
    rcases stands with ⟨found, rest, equal, each, edge, fits⟩
    exact ⟨edge, rest, after?_eq_some_iff.mpr ⟨found, equal, each⟩, fits⟩

theorem find_iff {word : List Character} {previous : Option Character} {text : List Character} :
    find same left right word previous text = true ↔
      ∃ before found after, text = before ++ found ++ after ∧
        List.Forall₂ (fun expected character => same expected character = true) word found ∧
        left (before.getLast?.or previous) = true ∧ right after.head? = true := by
  induction text generalizing previous with
  | nil =>
      rw [find, Bool.or_false, first_iff]
      constructor
      · intro stands
        rcases stands with ⟨found, after, equal, each, edge, fits⟩
        exact ⟨[], found, after, equal, each, edge, fits⟩
      · intro stands
        rcases stands with ⟨before, found, after, equal, each, edge, fits⟩
        have parts := List.append_eq_nil_iff.mp equal.symm
        have empty := (List.append_eq_nil_iff.mp parts.1).1
        subst empty
        exact ⟨found, after, equal, each, edge, fits⟩
  | cons character text induction =>
      have edge (before : List Character) : (character :: before).getLast?.or previous =
          before.getLast?.or (some character) := by
        rw [List.getLast?_cons]
        cases before.getLast? <;> rfl
      rw [find, Bool.or_eq_true, first_iff, induction]
      constructor
      · intro stands
        rcases stands with stands | stands
        · rcases stands with ⟨found, after, equal, each, left, fits⟩
          exact ⟨[], found, after, equal, each, left, fits⟩
        · rcases stands with ⟨before, found, after, equal, each, left, fits⟩
          refine ⟨character :: before, found, after, ?_, each, ?_, fits⟩
          · rw [equal, List.cons_append, List.cons_append]
          · rw [edge]
            exact left
      · intro stands
        rcases stands with ⟨before, found, after, equal, each, left, fits⟩
        cases before with
        | nil => exact .inl ⟨found, after, equal, each, left, fits⟩
        | cons head before =>
            cases equal
            rw [edge] at left
            exact .inr ⟨before, found, after, rfl, each, left, fits⟩

theorem Stands.weaken {left right left' right' : Option Character → Bool}
    {word text : List Character} (stands : Stands same left right word text)
    (leftEdge : ∀ neighbour, left neighbour = true → left' neighbour = true)
    (rightEdge : ∀ neighbour, right neighbour = true → right' neighbour = true) :
    Stands same left' right' word text := by
  rcases stands with ⟨before, found, after, equal, each, edge, fits⟩
  exact ⟨before, found, after, equal, each, leftEdge _ edge, rightEdge _ fits⟩

theorem find_iff_stands {word text : List Character} :
    find same left right word none text = true ↔ Stands same left right word text := by
  rw [find_iff, Stands]
  simp only [Option.or_none]

end

end TextToken

end Foundation
