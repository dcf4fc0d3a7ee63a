import SupportGuard.Foundation.Json

/-! # Relations between JSON trees

Two trees are related when they have one shape and their scalars are related in
pairs. Objects are compared key by key, whatever the order of their members. -/

namespace Foundation

namespace Json

variable (scalar : Json → Json → Prop)

mutual
def Related : Json → Json → Prop
  | .object left, right => match right with
      | .object right =>
          (∀ key, key ∈ left.map Prod.fst ↔ key ∈ right.map Prod.fst) ∧
            MembersRelated left right
      | _ => False
  | .array left, right => match right with
      | .array right => ItemsRelated left right
      | _ => False
  | .null, right => scalar .null right
  | .bool value, right => scalar (.bool value) right
  | .integer value, right => scalar (.integer value) right
  | .float value, right => scalar (.float value) right
  | .notANumber, right => scalar .notANumber right
  | .infinity negative, right => scalar (.infinity negative) right
  | .string value, right => scalar (.string value) right

def ItemsRelated : List Json → List Json → Prop
  | [], right => right = []
  | _ :: _, [] => False
  | left :: leftRest, right :: rightRest =>
      Related left right ∧ ItemsRelated leftRest rightRest

/-- Every member on the left has a related member on the right. -/
def MembersRelated : List (String × Json) → List (String × Json) → Prop
  | [], _ => True
  | (key, value) :: rest, right =>
      (∃ other, right.lookup key = some other ∧ Related value other) ∧
        MembersRelated rest right
end

/-! ## Lookup -/

theorem lookup_eq_none_iff {members : List (String × Json)} {key : String} :
    members.lookup key = none ↔ key ∉ members.map Prod.fst := by
  rw [List.lookup_eq_none_iff, List.mem_map]
  constructor
  · intro different member
    rcases member with ⟨entry, present, rfl⟩
    exact absurd (different entry present) (by simp)
  · intro absent entry present
    rw [bne_iff_ne]
    intro equal
    exact absent ⟨entry, present, equal.symm⟩

theorem lookup_isSome_iff {members : List (String × Json)} {key : String} :
    (members.lookup key).isSome ↔ key ∈ members.map Prod.fst := by
  rw [Option.isSome_iff_ne_none, ne_eq, lookup_eq_none_iff, not_not]

theorem MembersUniqueKeys.of_lookup {key : String} {value : Json} :
    ∀ {members : List (String × Json)}, MembersUniqueKeys members →
      members.lookup key = some value → value.UniqueKeys
  | [], _, found => by cases found
  | (head, first) :: rest, unique, found => by
      by_cases equal : key = head
      · subst equal
        rw [List.lookup_cons_self, Option.some.injEq] at found
        exact found ▸ unique.1
      · rw [List.lookup_cons, beq_false_of_ne equal] at found
        exact unique.2.of_lookup found

theorem ItemsRelated.length_eq {scalar : Json → Json → Prop} :
    ∀ {left right : List Json}, ItemsRelated scalar left right →
      left.length = right.length
  | [], _, related => by
      cases (show _ = [] from related)
      rfl
  | _ :: _, [], related => related.elim
  | _ :: _, _ :: _, related => congrArg (· + 1) (length_eq related.2)

theorem membersRelated_iff {right : List (String × Json)} :
    ∀ {left : List (String × Json)}, (left.map Prod.fst).Nodup →
      (MembersRelated scalar left right ↔ ∀ key value, left.lookup key = some value →
        ∃ other, right.lookup key = some other ∧ Related scalar value other)
  | [], _ => by simp [MembersRelated]
  | (head, value) :: rest, unique => by
      have parts := List.nodup_cons.mp unique
      rw [MembersRelated, membersRelated_iff parts.2]
      constructor
      · intro related key found equal
        by_cases same : key = head
        · subst same
          rw [List.lookup_cons_self, Option.some.injEq] at equal
          exact equal ▸ related.1
        · rw [List.lookup_cons, beq_false_of_ne same] at equal
          exact related.2 key found equal
      · intro related
        refine ⟨related head value List.lookup_cons_self, ?_⟩
        intro key found equal
        have different : key ≠ head := by
          intro same
          subst same
          exact parts.1 (lookup_isSome_iff.mp (by rw [equal]; rfl))
        apply related key found
        rw [List.lookup_cons, beq_false_of_ne different]
        exact equal

/-- Related objects hold the same keys, with related values. -/
theorem related_object_iff {left right : List (String × Json)}
    (unique : (left.map Prod.fst).Nodup) :
    Related scalar (.object left) (.object right) ↔ ∀ key,
      Option.Rel (Related scalar) (left.lookup key) (right.lookup key) := by
  rw [Related, membersRelated_iff scalar unique]
  constructor
  · intro related key
    cases equal : left.lookup key with
    | none =>
        have absent : right.lookup key = none := by
          rw [lookup_eq_none_iff, ← related.1 key, ← lookup_eq_none_iff]
          exact equal
        rw [absent]
        exact .none
    | some value =>
        rcases related.2 key value equal with ⟨other, found, holds⟩
        rw [found]
        exact .some holds
  · intro related
    refine ⟨?_, ?_⟩
    · intro key
      rw [← lookup_isSome_iff, ← lookup_isSome_iff]
      have pair := related key
      generalize left.lookup key = value at pair ⊢
      generalize right.lookup key = other at pair ⊢
      cases pair <;> simp
    · intro key value equal
      have pair := related key
      rw [equal] at pair
      rcases found : right.lookup key with _ | other
      · rw [found] at pair
        cases pair
      · rw [found] at pair
        cases pair with
        | some holds => exact ⟨other, rfl, holds⟩

/-! ## Related members -/

def RelatedAt (left right : List (String × Json)) (key : String) : Prop :=
  ∃ value other, left.lookup key = some value ∧ right.lookup key = some other ∧
    Related scalar value other

theorem related_object_iff_relatedAt {left right : List (String × Json)}
    (unique : (left.map Prod.fst).Nodup) :
    Related scalar (.object left) (.object right) ↔
      ∀ key, key ∈ left.map Prod.fst ∨ key ∈ right.map Prod.fst →
        RelatedAt scalar left right key := by
  rw [related_object_iff scalar unique]
  constructor
  · intro related key member
    have pair := related key
    rw [← lookup_isSome_iff, ← lookup_isSome_iff] at member
    unfold RelatedAt
    generalize left.lookup key = value at pair member ⊢
    generalize right.lookup key = other at pair member ⊢
    cases pair with
    | none => simp at member
    | some holds => exact ⟨_, _, rfl, rfl, holds⟩
  · intro related key
    by_cases member : key ∈ left.map Prod.fst ∨ key ∈ right.map Prod.fst
    · rcases related key member with ⟨value, other, found, otherFound, holds⟩
      rw [found, otherFound]
      exact .some holds
    · rw [not_or] at member
      rw [lookup_eq_none_iff.mpr member.1, lookup_eq_none_iff.mpr member.2]
      exact .none

/-- A relation that is equality on null, integers and strings. -/
structure Exact (scalar : Json → Json → Prop) : Prop where
  null : scalar .null .null
  nullString (text : String) : ¬scalar .null (.string text)
  stringNull (text : String) : ¬scalar (.string text) .null
  string (left right : String) : scalar (.string left) (.string right) ↔ left = right
  integer (left right : Int) : scalar (.integer left) (.integer right) ↔ left = right

section Exact

variable {scalar : Json → Json → Prop} (exact : Exact scalar)

include exact

theorem Exact.related_string (left right : String) :
    Related scalar (.string left) (.string right) ↔ left = right :=
  exact.string left right

theorem Exact.related_integer (left right : Int) :
    Related scalar (.integer left) (.integer right) ↔ left = right :=
  exact.integer left right

theorem Exact.related_optionalText (left right : Option String) :
    Related scalar (optionalText left) (optionalText right) ↔ left = right := by
  cases left <;> cases right <;>
    simp [optionalText, Related, exact.null, exact.nullString, exact.stringNull,
      exact.string]

end Exact

theorem exact_eq : Exact Eq where
  null := rfl
  nullString _ := Json.noConfusion
  stringNull _ := Json.noConfusion
  string _ _ := by rw [Json.string.injEq]
  integer _ _ := by rw [Json.integer.injEq]

/-! ## Keys in order -/

/-- A list in strict order is divided by each of its elements. -/
theorem eq_filter_of_pairwise {α : Type*} [LinearOrder α] {key : α} :
    ∀ {keys : List α}, keys.Pairwise (· < ·) → key ∈ keys →
    keys = keys.filter (· < key) ++ key :: keys.filter (key < ·)
  | first :: rest, sorted, member => by
      have parts := List.pairwise_cons.mp sorted
      rcases List.mem_cons.mp member with rfl | later
      · have before : rest.filter (· < key) = [] := by
          rw [List.filter_eq_nil_iff]
          intro other present
          simpa using le_of_lt (parts.1 other present)
        have after : rest.filter (key < ·) = rest := by
          rw [List.filter_eq_self]
          intro other present
          simpa using parts.1 other present
        simp [before, after]
      · have smaller : first < key := parts.1 key later
        have notAfter : ¬key < first := not_lt_of_gt smaller
        rw [List.filter_cons_of_pos (by simpa using smaller),
          List.filter_cons_of_neg (by simpa using notAfter), List.cons_append,
          ← eq_filter_of_pairwise parts.2 later]

theorem forall_mem_iff_filter {α : Type*} [LinearOrder α] {holds : α → Prop}
    {keys : List α} {key : α} (member : key ∈ keys) :
    (∀ other ∈ keys, holds other) ↔
      (∀ other ∈ keys.filter (· < key), holds other) ∧ holds key ∧
        ∀ other ∈ keys.filter (key < ·), holds other := by
  constructor
  · intro all
    exact ⟨fun other present => all other (List.mem_of_mem_filter present), all key member,
      fun other present => all other (List.mem_of_mem_filter present)⟩
  · intro parts other present
    rcases lt_trichotomy other key with smaller | rfl | larger
    · exact parts.1 other (List.mem_filter.mpr ⟨present, by simpa using smaller⟩)
    · exact parts.2.1
    · exact parts.2.2 other (List.mem_filter.mpr ⟨present, by simpa using larger⟩)

/-- Trees that are identical up to the order of object members. -/
def Identical : Json → Json → Prop :=
  Related Eq

end Json

end Foundation
