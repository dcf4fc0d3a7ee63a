import Mathlib.Data.List.Sort
import Mathlib.Data.String.Basic

/-! # JSON values

Executable JSON trees, the reordering of object members, and equality up to
that reordering. The compact text of a tree is in `JsonText`. -/

namespace Foundation

/-! ## Floating literals -/

/-- The characters a JSON number may contain. -/
def isNumberCharacter (character : Char) : Bool :=
  character.isDigit || character == '-' || character == '+' ||
    character == '.' || character == 'e' || character == 'E'

/-- A finite non-integer literal keeps its shortest decimal spelling, which
identifies the value it denotes. It starts with a digit or a sign and has a
fraction or an exponent, so it is never the spelling of an integer. -/
def isFloatText (text : List Char) : Bool :=
  text.all isNumberCharacter &&
    (text.headD ' ').isDigit.or (text.headD ' ' == '-') &&
    text.any (fun character => character == '.' || character == 'e')

structure FloatLiteral where
  text : List Char
  valid : isFloatText text = true
deriving DecidableEq

/-! ## Trees -/

inductive Json
  | null
  | bool (value : Bool)
  | integer (value : Int)
  | float (value : FloatLiteral)
  | notANumber
  | infinity (negative : Bool)
  | string (value : String)
  | array (items : List Json)
  | object (members : List (String × Json))

namespace Json

instance : Inhabited Json := ⟨.null⟩

/-! The derived handler does not cover nested inductive types. -/

mutual
def decideEq : (left right : Json) → Decidable (left = right)
  | .null, right => match right with
      | .null => isTrue rfl
      | .bool _ | .integer _ | .float _ | .notANumber | .infinity _
      | .string _ | .array _ | .object _ => isFalse (by simp)
  | .bool left, right => match right with
      | .bool right =>
          if equal : left = right then isTrue (by rw [equal])
          else isFalse (by simpa using equal)
      | .null | .integer _ | .float _ | .notANumber | .infinity _
      | .string _ | .array _ | .object _ => isFalse (by simp)
  | .integer left, right => match right with
      | .integer right =>
          if equal : left = right then isTrue (by rw [equal])
          else isFalse (by simpa using equal)
      | .null | .bool _ | .float _ | .notANumber | .infinity _
      | .string _ | .array _ | .object _ => isFalse (by simp)
  | .float left, right => match right with
      | .float right =>
          if equal : left = right then isTrue (by rw [equal])
          else isFalse (by simpa using equal)
      | .null | .bool _ | .integer _ | .notANumber | .infinity _
      | .string _ | .array _ | .object _ => isFalse (by simp)
  | .notANumber, right => match right with
      | .notANumber => isTrue rfl
      | .null | .bool _ | .integer _ | .float _ | .infinity _
      | .string _ | .array _ | .object _ => isFalse (by simp)
  | .infinity left, right => match right with
      | .infinity right =>
          if equal : left = right then isTrue (by rw [equal])
          else isFalse (by simpa using equal)
      | .null | .bool _ | .integer _ | .float _ | .notANumber
      | .string _ | .array _ | .object _ => isFalse (by simp)
  | .string left, right => match right with
      | .string right =>
          if equal : left = right then isTrue (by rw [equal])
          else isFalse (by simpa using equal)
      | .null | .bool _ | .integer _ | .float _ | .notANumber | .infinity _
      | .array _ | .object _ => isFalse (by simp)
  | .array left, right => match right with
      | .array right => match decideItemsEq left right with
          | isTrue equal => isTrue (by rw [equal])
          | isFalse different => isFalse (by simpa using different)
      | .null | .bool _ | .integer _ | .float _ | .notANumber | .infinity _
      | .string _ | .object _ => isFalse (by simp)
  | .object left, right => match right with
      | .object right => match decideMembersEq left right with
          | isTrue equal => isTrue (by rw [equal])
          | isFalse different => isFalse (by simpa using different)
      | .null | .bool _ | .integer _ | .float _ | .notANumber | .infinity _
      | .string _ | .array _ => isFalse (by simp)

def decideItemsEq : (left right : List Json) → Decidable (left = right)
  | [], [] => isTrue rfl
  | [], _ :: _ => isFalse (by simp)
  | _ :: _, [] => isFalse (by simp)
  | left :: leftRest, right :: rightRest =>
      match decideEq left right, decideItemsEq leftRest rightRest with
      | isTrue head, isTrue tail => isTrue (by rw [head, tail])
      | isFalse different, _ => isFalse fun equal => different (by simp_all)
      | _, isFalse different => isFalse fun equal => different (by simp_all)

def decideMembersEq :
    (left right : List (String × Json)) → Decidable (left = right)
  | [], [] => isTrue rfl
  | [], _ :: _ => isFalse (by simp)
  | _ :: _, [] => isFalse (by simp)
  | (leftKey, left) :: leftRest, (rightKey, right) :: rightRest =>
      if keys : leftKey = rightKey then
        match decideEq left right, decideMembersEq leftRest rightRest with
        | isTrue head, isTrue tail => isTrue (by rw [keys, head, tail])
        | isFalse different, _ => isFalse fun equal => different (by simp_all)
        | _, isFalse different => isFalse fun equal => different (by simp_all)
      else
        isFalse fun equal => keys (by simp_all)
end

instance : DecidableEq Json := decideEq

/-- Look an object member up by key. -/
def get? (value : Json) (key : String) : Option Json :=
  match value with
  | .object members => members.lookup key
  | _ => none

/-! Optional scalars are null when absent. -/

def optionalText : Option String → Json
  | none => .null
  | some text => .string text

def optionalInteger : Option Int → Json
  | none => .null
  | some value => .integer value

/-! ## Distinct keys -/

mutual
/-- Every object of the tree holds each of its keys once. -/
def UniqueKeys : Json → Prop
  | .array items => ItemsUniqueKeys items
  | .object members => (members.map Prod.fst).Nodup ∧ MembersUniqueKeys members
  | _ => True

def ItemsUniqueKeys : List Json → Prop
  | [] => True
  | head :: tail => head.UniqueKeys ∧ ItemsUniqueKeys tail

def MembersUniqueKeys : List (String × Json) → Prop
  | [] => True
  | (_, value) :: tail => value.UniqueKeys ∧ MembersUniqueKeys tail
end

/-! ## Member order -/

/-- Members compare by key, in code-point order. -/
def memberLe (left right : String × Json) : Prop :=
  left.1 ≤ right.1

instance : DecidableRel memberLe :=
  fun left right => inferInstanceAs (Decidable (left.1 ≤ right.1))

instance : Std.Total memberLe :=
  ⟨fun left right => le_total left.1 right.1⟩

instance : IsTrans (String × Json) memberLe :=
  ⟨fun _ _ _ => le_trans⟩

mutual
/-- List the members of every object in key order. -/
def sortKeys : Json → Json
  | .array items => .array (sortItems items)
  | .object members => .object ((sortMembers members).insertionSort memberLe)
  | .null => .null
  | .bool value => .bool value
  | .integer value => .integer value
  | .float value => .float value
  | .notANumber => .notANumber
  | .infinity negative => .infinity negative
  | .string value => .string value

def sortItems : List Json → List Json
  | [] => []
  | head :: tail => head.sortKeys :: sortItems tail

def sortMembers : List (String × Json) → List (String × Json)
  | [] => []
  | (key, value) :: tail => (key, value.sortKeys) :: sortMembers tail
end

theorem sortMembers_eq_map (members : List (String × Json)) :
    sortMembers members =
      members.map fun member => (member.1, member.2.sortKeys) := by
  induction members with
  | nil => rfl
  | cons head tail induction => simp [sortMembers, induction]

@[simp] theorem sortMembers_keys (members : List (String × Json)) :
    (sortMembers members).map Prod.fst = members.map Prod.fst := by
  rw [sortMembers_eq_map, List.map_map]
  rfl

variable {left right : List (String × Json)}

/-- Two orders of the same members, each key occurring once, sort to the same
list. -/
theorem insertionSort_eq_of_perm (permutation : left.Perm right)
    (nodup : (left.map Prod.fst).Nodup) :
    left.insertionSort memberLe = right.insertionSort memberLe := by
  have sorted : (left.insertionSort memberLe).Perm
      (right.insertionSort memberLe) :=
    (List.perm_insertionSort _ left).trans
      (permutation.trans (List.perm_insertionSort _ right).symm)
  refine sorted.eq_of_pairwise ?_ (List.pairwise_insertionSort _ left)
    (List.pairwise_insertionSort _ right)
  intro first second firstMem secondMem firstLe secondLe
  have firstLeft := (List.perm_insertionSort _ left).subset firstMem
  have secondLeft := permutation.symm.subset
    ((List.perm_insertionSort _ right).subset secondMem)
  exact List.inj_on_of_nodup_map nodup firstLeft secondLeft
    (le_antisymm firstLe secondLe)

/-- Members listed under the same keys are equal as soon as they sort alike. -/
theorem eq_of_insertionSort_eq (sorted : left.insertionSort memberLe = right.insertionSort memberLe)
    (keys : left.map Prod.fst = right.map Prod.fst) (nodup : (left.map Prod.fst).Nodup) :
    left = right := by
  have permutation : left.Perm right :=
    (List.perm_insertionSort memberLe left).symm.trans
      (sorted ▸ List.perm_insertionSort memberLe right)
  apply List.ext_getElem permutation.length_eq
  intro position leftBound rightBound
  have sameKey := congrArg (fun names => names[position]?) keys
  simp only [List.getElem?_map, List.getElem?_eq_getElem leftBound,
    List.getElem?_eq_getElem rightBound, Option.map_some, Option.some.injEq] at sameKey
  exact List.inj_on_of_nodup_map nodup (List.getElem_mem leftBound)
    (permutation.symm.subset (List.getElem_mem rightBound)) sameKey

/-! ## Equality up to member order -/

mutual
/-- Equality of JSON values: the order of object members does not count, and
values of different JSON types are never equal. -/
def Same : Json → Json → Prop
  | .array left, right => match right with
      | .array right => SameItems left right
      | _ => False
  | .object left, right => match right with
      | .object right =>
          ∃ ordered, right.Perm ordered ∧ SameMembers left ordered
      | _ => False
  | .null, right => right = .null
  | .bool left, right => right = .bool left
  | .integer left, right => right = .integer left
  | .float left, right => right = .float left
  | .notANumber, right => right = .notANumber
  | .infinity left, right => right = .infinity left
  | .string left, right => right = .string left

def SameItems : List Json → List Json → Prop
  | [], right => right = []
  | _ :: _, [] => False
  | left :: leftRest, right :: rightRest =>
      Same left right ∧ SameItems leftRest rightRest

def SameMembers : List (String × Json) → List (String × Json) → Prop
  | [], right => right = []
  | _ :: _, [] => False
  | (leftKey, left) :: leftRest, (rightKey, right) :: rightRest =>
      leftKey = rightKey ∧ Same left right ∧ SameMembers leftRest rightRest
end

/-- A permutation between mapped lists comes from a permutation of the second
list itself. -/
theorem exists_perm_map_eq {α β : Type*} (transform : α → β) :
    ∀ {left right : List α}, (left.map transform).Perm (right.map transform) →
      ∃ ordered, right.Perm ordered ∧ left.map transform = ordered.map transform
  | [], right, permutation => by
      have empty : right = [] := by simpa using permutation.symm.eq_nil
      exact ⟨[], by simp [empty], rfl⟩
  | head :: tail, right, permutation => by
      have member : transform head ∈ right.map transform :=
        permutation.subset (by simp)
      rcases List.mem_map.mp member with ⟨source, sourceMem, equal⟩
      rcases List.append_of_mem sourceMem with ⟨before, after, rfl⟩
      have remaining : (tail.map transform).Perm
          ((before ++ after).map transform) := by
        have middle : (before ++ source :: after).Perm (source :: (before ++ after)) :=
          List.perm_middle
        have moved := permutation.trans (middle.map transform)
        rw [List.map_cons, List.map_cons, equal] at moved
        exact moved.cons_inv
      rcases exists_perm_map_eq transform remaining with
        ⟨ordered, orderedPerm, mapped⟩
      refine ⟨source :: ordered, ?_, by simp [mapped, equal]⟩
      exact List.perm_middle.trans (orderedPerm.cons source)

theorem MembersUniqueKeys.perm (permutation : left.Perm right) (unique : MembersUniqueKeys left) :
    MembersUniqueKeys right := by
  induction permutation with
  | nil => trivial
  | cons head _ induction => exact ⟨unique.1, induction unique.2⟩
  | swap first second tail => exact ⟨unique.2.1, unique.1, unique.2.2⟩
  | trans _ _ first second => exact second (first unique)

mutual
theorem same_iff_sortKeys_eq : ∀ (left right : Json),
    left.UniqueKeys → right.UniqueKeys →
    (left.Same right ↔ left.sortKeys = right.sortKeys)
  | .null, right, _, _ => by cases right <;> simp [Same, sortKeys]
  | .bool _, right, _, _ => by
      cases right <;> simp [Same, sortKeys, eq_comm]
  | .integer _, right, _, _ => by
      cases right <;> simp [Same, sortKeys, eq_comm]
  | .float _, right, _, _ => by
      cases right <;> simp [Same, sortKeys, eq_comm]
  | .notANumber, right, _, _ => by cases right <;> simp [Same, sortKeys]
  | .infinity _, right, _, _ => by
      cases right <;> simp [Same, sortKeys, eq_comm]
  | .string _, right, _, _ => by
      cases right <;> simp [Same, sortKeys, eq_comm]
  | .array left, right, leftUnique, rightUnique => by
      cases right with
      | array right =>
          simpa [Same, sortKeys] using
            sameItems_iff left right leftUnique rightUnique
      | _ => simp [Same, sortKeys]
  | .object left, right, leftUnique, rightUnique => by
      cases right with
      | object right =>
          simp only [Same, sortKeys, object.injEq]
          constructor
          · rintro ⟨ordered, permutation, same⟩
            have mapped := (sameMembers_iff left ordered leftUnique.2
              (rightUnique.2.perm permutation)).mp same
            rw [mapped]
            apply insertionSort_eq_of_perm
            · rw [sortMembers_eq_map, sortMembers_eq_map]
              exact permutation.symm.map _
            · rw [sortMembers_keys]
              exact ((permutation.map Prod.fst).nodup_iff).mp rightUnique.1
          · intro equal
            have permutation : (sortMembers left).Perm (sortMembers right) :=
              (List.perm_insertionSort memberLe (sortMembers left)).symm.trans
                (equal ▸ List.perm_insertionSort memberLe (sortMembers right))
            rw [sortMembers_eq_map, sortMembers_eq_map] at permutation
            rcases exists_perm_map_eq _ permutation with
              ⟨ordered, orderedPerm, mapped⟩
            refine ⟨ordered, orderedPerm, (sameMembers_iff left ordered
              leftUnique.2 (rightUnique.2.perm orderedPerm)).mpr ?_⟩
            rw [sortMembers_eq_map, sortMembers_eq_map]
            exact mapped
      | _ => simp [Same, sortKeys]

theorem sameItems_iff : ∀ (left right : List Json),
    ItemsUniqueKeys left → ItemsUniqueKeys right →
    (SameItems left right ↔ sortItems left = sortItems right)
  | [], right, _, _ => by cases right <;> simp [SameItems, sortItems]
  | _ :: _, [], _, _ => by simp [SameItems, sortItems]
  | left :: leftRest, right :: rightRest, leftUnique, rightUnique => by
      simp [SameItems, sortItems,
        same_iff_sortKeys_eq left right leftUnique.1 rightUnique.1,
        sameItems_iff leftRest rightRest leftUnique.2 rightUnique.2]

theorem sameMembers_iff : ∀ (left right : List (String × Json)),
    MembersUniqueKeys left → MembersUniqueKeys right →
    (SameMembers left right ↔ sortMembers left = sortMembers right)
  | [], right, _, _ => by cases right <;> simp [SameMembers, sortMembers]
  | _ :: _, [], _, _ => by simp [SameMembers, sortMembers]
  | (leftKey, left) :: leftRest, (rightKey, right) :: rightRest,
      leftUnique, rightUnique => by
      simp [SameMembers, sortMembers, and_assoc,
        same_iff_sortKeys_eq left right leftUnique.1 rightUnique.1,
        sameMembers_iff leftRest rightRest leftUnique.2 rightUnique.2]
end

mutual
/-- Sorting the members of a value does not change it as a JSON value. -/
theorem same_sortKeys : ∀ value : Json, value.Same value.sortKeys
  | .null => rfl
  | .bool _ => rfl
  | .integer _ => rfl
  | .float _ => rfl
  | .notANumber => rfl
  | .infinity _ => rfl
  | .string _ => rfl
  | .array items => sameItems_sortItems items
  | .object members =>
      ⟨sortMembers members, List.perm_insertionSort memberLe _,
        sameMembers_sortMembers members⟩

theorem sameItems_sortItems : ∀ items : List Json, SameItems items (sortItems items)
  | [] => rfl
  | head :: tail => ⟨head.same_sortKeys, sameItems_sortItems tail⟩

theorem sameMembers_sortMembers : ∀ members : List (String × Json),
    SameMembers members (sortMembers members)
  | [] => rfl
  | (_, value) :: tail => ⟨rfl, value.same_sortKeys, sameMembers_sortMembers tail⟩
end

end Json

/-- A JSON value as a dictionary-based reader returns it: no object repeats a
key. -/
structure JsonDocument where
  value : Json
  uniqueKeys : value.UniqueKeys
deriving DecidableEq

end Foundation
