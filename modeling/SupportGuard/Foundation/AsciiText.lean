import SupportGuard.Foundation.JsonText

/-! # When the ASCII text of a value is its text

Escaping to ASCII leaves a text as it is when every character stands for itself,
and makes it longer otherwise. -/

namespace Foundation

namespace JsonText

/-- The characters that stand for themselves in ASCII text. -/
def Printable (character : Char) : Prop :=
  0x20 ≤ character.toNat ∧ character.toNat < 0x7F

instance : DecidablePred Printable := fun character =>
  inferInstanceAs (Decidable (0x20 ≤ character.toNat ∧ character.toNat < 0x7F))

theorem escapeAscii_printable {character : Char} (printable : Printable character) :
    escapeAscii character = [character] := if_pos printable

theorem one_lt_length_escapeAscii {character : Char} (other : ¬Printable character) :
    1 < (escapeAscii character).length := by
  have outside : ¬(0x20 ≤ character.toNat ∧ character.toNat < 0x7F) := other
  unfold escapeAscii
  rw [if_neg outside]
  split <;> simp [escapeUnit]

theorem length_le_flatMap_escapeAscii (text : List Char) :
    text.length ≤ (text.flatMap escapeAscii).length := by
  induction text with
  | nil => exact Nat.le_refl _
  | cons character rest induction =>
      rw [List.flatMap_cons, List.length_append, List.length_cons]
      by_cases printable : Printable character
      · rw [escapeAscii_printable printable, List.length_singleton]
        omega
      · have longer := one_lt_length_escapeAscii printable
        omega

theorem flatMap_escapeAscii_eq_iff (text : List Char) :
    text.flatMap escapeAscii = text ↔ ∀ character ∈ text, Printable character := by
  induction text with
  | nil => simp
  | cons character rest induction =>
      rw [List.forall_mem_cons, ← induction, List.flatMap_cons]
      by_cases printable : Printable character
      · rw [escapeAscii_printable printable, List.singleton_append, List.cons_inj_right]
        exact (and_iff_right printable).symm
      · have longer := one_lt_length_escapeAscii printable
        have later := length_le_flatMap_escapeAscii rest
        constructor
        · intro equal
          have lengths := congrArg List.length equal
          rw [List.length_append, List.length_cons] at lengths
          omega
        · intro both
          exact absurd both.1 printable

theorem printable_hexDigit {value : Nat} (bound : value < 16) : Printable (hexDigit value) := by
  interval_cases value <;> decide

/-- What is written for a character is printable unless the character is from
beyond ASCII, or the delete character. -/
theorem forall_escape_printable_iff (character : Char) :
    (∀ written ∈ escape character, Printable written) ↔ character.toNat < 0x7F := by
  unfold escape
  split_ifs with quote backslash newline carriage tab backspace feed control
  rotate_left 7
  · have high := @printable_hexDigit (character.toNat / 16) (by omega)
    have low := @printable_hexDigit (character.toNat % 16) (by omega)
    have below : character.toNat < 0x7F := by omega
    simp only [List.forall_mem_cons, high, low, below, List.not_mem_nil, false_implies,
      implies_true, and_true, iff_true]
    decide
  · have above : 0x20 ≤ character.toNat := by omega
    simp [Printable, above]
  all_goals
    subst character
    simp only [List.forall_mem_cons, List.not_mem_nil, false_implies, implies_true, and_true]
    decide

theorem forall_writeString_printable_iff (text : String) :
    (∀ written ∈ writeString text, Printable written) ↔
      ∀ character ∈ text.toList, character.toNat < 0x7F := by
  have quote : Printable '"' := by decide
  simp only [writeString, List.forall_mem_cons, List.forall_mem_append, quote, true_and,
    List.not_mem_nil, false_implies, implies_true, and_true, List.forall_mem_flatMap,
    forall_escape_printable_iff]

end JsonText

end Foundation
