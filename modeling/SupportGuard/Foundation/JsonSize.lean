import Mathlib.Algebra.Order.BigOperators.Group.List
import SupportGuard.Foundation.JsonText

/-! # The size of a canonical text

The bytes of a canonical text are those of its parts and of the signs between them, in
whatever order the parts stand. -/

namespace Foundation

namespace JsonText

def byteCount (text : List Char) : Nat :=
  (utf8 text).length

@[simp] theorem byteCount_nil : byteCount [] = 0 := rfl

@[simp] theorem byteCount_append (left right : List Char) :
    byteCount (left ++ right) = byteCount left + byteCount right := by
  simp [byteCount, utf8]

/-- A sign of the syntax is one byte. -/
theorem byteCount_cons {character : Char} (small : byteCount [character] = 1)
    (rest : List Char) : byteCount (character :: rest) = byteCount rest + 1 := by
  have parts := byteCount_append [character] rest
  rw [List.singleton_append, small] at parts
  omega

theorem byteCount_writeItems (items : List Json) :
    byteCount (writeItems items) =
      (items.map fun item => byteCount (write item)).sum + (items.length - 1) := by
  induction items with
  | nil => rfl
  | cons item rest induction =>
      cases rest with
      | nil => simp [writeItems]
      | cons next rest =>
          rw [writeItems, byteCount_append, byteCount_cons (by decide), induction]
          simp only [List.map_cons, List.sum_cons, List.length_cons]
          omega

def memberBytes (member : String × Json) : Nat :=
  byteCount (writeString member.1) + 1 + byteCount (write member.2)

theorem byteCount_writeMembers (members : List (String × Json)) :
    byteCount (writeMembers members) =
      (members.map memberBytes).sum + (members.length - 1) := by
  induction members with
  | nil => rfl
  | cons member rest induction =>
      rcases member with ⟨key, value⟩
      cases rest with
      | nil =>
          rw [writeMembers, byteCount_append, byteCount_cons (by decide)]
          simp only [memberBytes, List.map_cons, List.map_nil, List.sum_cons, List.sum_nil,
            List.length_cons, List.length_nil]
          omega
      | cons next rest =>
          rw [writeMembers, byteCount_append, byteCount_cons (by decide), byteCount_append,
            byteCount_cons (by decide), induction]
          simp only [memberBytes, List.map_cons, List.sum_cons, List.length_cons]
          omega

/-- The bytes of the canonical text of a value. -/
def size (value : Json) : Nat :=
  byteCount (encode value)

theorem size_array (items : List Json) :
    size (.array items) = (items.map size).sum + (items.length - 1) + 2 := by
  have sorted : Json.sortItems items = items.map Json.sortKeys := by
    induction items with
    | nil => rfl
    | cons head tail induction => simp [Json.sortItems, induction]
  simp only [size, encode, Json.sortKeys, write]
  rw [byteCount_cons (by decide), byteCount_append, byteCount_writeItems, sorted, List.map_map,
    List.length_map]
  have last : byteCount [']'] = 1 := by decide
  have sizes : (items.map (byteCount ∘ write ∘ Json.sortKeys)) = items.map size := rfl
  simp only [Function.comp_def] at sizes ⊢
  rw [sizes]
  omega

theorem size_object (members : List (String × Json)) :
    size (.object members) =
      (members.map fun member => byteCount (writeString member.1) + 1 + size member.2).sum +
        (members.length - 1) + 2 := by
  have sorted := List.perm_insertionSort Json.memberLe (Json.sortMembers members)
  have bytes := (sorted.map memberBytes).sum_eq
  simp only [size, encode, Json.sortKeys, write]
  rw [byteCount_cons (by decide), byteCount_append, byteCount_writeMembers, bytes,
    sorted.length_eq, Json.sortMembers_eq_map, List.map_map, List.length_map]
  have last : byteCount ['\x7d'] = 1 := by decide
  have sizes : (members.map fun member : String × Json =>
      byteCount (writeString member.1) + 1 + byteCount (write member.2.sortKeys)) =
        members.map fun member => byteCount (writeString member.1) + 1 + size member.2 := rfl
  simp only [Function.comp_def, memberBytes]
  rw [sizes]
  omega

/-- Without some of its items a list is not longer. -/
theorem size_array_le {part items : List Json} (sublist : part.Sublist items) :
    size (.array part) ≤ size (.array items) := by
  have sums := (sublist.map size).sum_le_sum (by simp)
  have lengths := sublist.length_le
  rw [size_array, size_array]
  omega

/-- An object is not longer with a shorter last value. -/
theorem size_object_append_le (front : List (String × Json)) (key : String) {value other : Json}
    (shorter : size value ≤ size other) :
    size (.object (front ++ [(key, value)])) ≤ size (.object (front ++ [(key, other)])) := by
  rw [size_object, size_object]
  simp only [List.map_append, List.map_cons, List.map_nil, List.sum_append, List.sum_cons,
    List.sum_nil, List.length_append, List.length_cons, List.length_nil]
  omega

end JsonText

end Foundation
