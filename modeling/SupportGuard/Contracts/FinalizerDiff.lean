import Mathlib.Algebra.GroupWithZero.Nat
import SupportGuard.Contracts.Finalizer

/-! # What the mismatch paths say

Each path names a place where two payloads differ, and there is none just when the payloads
agree. The limit is checked after each item of a list but not after each value of an object, so a
key that only one object has may be recorded beyond it. -/

namespace SupportGuard

open Foundation

namespace FinalizerMismatch

/-! ## Places -/

/-- A step from a tree to one of its children. -/
inductive Step
  | key (name : String)
  | index (position : Nat)
deriving DecidableEq

def child? : Json → Step → Option Json
  | .object members, .key name => members.lookup name
  | .array items, .index position => items[position]?
  | _, _ => none

/-- The value at the end of some steps. -/
def at? (value : Json) : List Step → Option Json
  | [] => some value
  | step :: rest => (child? value step).bind fun child => at? child rest

/-- The path of a place. -/
def rendered (path : String) : List Step → String
  | [] => path
  | .key name :: rest => rendered (childPath path name) rest
  | .index position :: rest => rendered (path ++ "[" ++ toString position ++ "]") rest

def sameContainer : Json → Json → Bool
  | .object _, .object _ | .array _, .array _ => true
  | _, _ => false

/-- A path names a place where two trees differ in presence, in the length of a list, or in the
type or value of what stands there. -/
inductive Names (left right : Json) (base : String) : String → Prop
  | presence (steps : List Step) :
      (at? left steps).isSome ≠ (at? right steps).isSome →
      Names left right base (rendered base steps)
  | length (steps : List Step) {leftItems rightItems : List Json} :
      at? left steps = some (.array leftItems) → at? right steps = some (.array rightItems) →
      leftItems.length ≠ rightItems.length →
      Names left right base (rendered base steps ++ ".length")
  | value (steps : List Step) {value other : Json} :
      at? left steps = some value → at? right steps = some other →
      sameContainer value other = false → scalarEqual value other = false →
      Names left right base
        (if rendered base steps = "" then "$" else rendered base steps)

/-- A place below a child is a place. -/
theorem Names.below {left right child other : Json} {base path : String} {step : Step}
    (leftChild : child? left step = some child) (rightChild : child? right step = some other)
    (names : Names child other (rendered base [step]) path) : Names left right base path := by
  have leftAt : ∀ steps, at? left (step :: steps) = at? child steps := by
    intro steps
    simp [at?, leftChild]
  have rightAt : ∀ steps, at? right (step :: steps) = at? other steps := by
    intro steps
    simp [at?, rightChild]
  have path : ∀ steps, rendered base (step :: steps) = rendered (rendered base [step]) steps := by
    intro steps
    cases step <;> rfl
  cases names with
  | presence steps differ =>
      rw [← path]
      apply Names.presence
      rwa [leftAt, rightAt]
  | length steps leftItems rightItems differ =>
      rw [← path]
      exact .length (step :: steps) ((leftAt steps).trans leftItems)
        ((rightAt steps).trans rightItems) differ
  | value steps value other container scalar =>
      simp only [← path]
      exact .value (step :: steps) ((leftAt steps).trans value) ((rightAt steps).trans other)
        container scalar

theorem Names.member {left right : List (String × Json)} {value other : Json}
    {base path key : String} (found : left.lookup key = some value)
    (otherFound : right.lookup key = some other)
    (names : Names value other (childPath base key) path) :
    Names (.object left) (.object right) base path :=
  @Names.below (.object left) (.object right) value other base path (.key key) found otherFound
    names

/-- The paths that a comparison adds name differences. -/
def AddsNames (left right : Json) (path : String) (run : Paths → Paths) : Prop :=
  ∀ mismatches, ∀ added ∈ run mismatches, added ∈ mismatches ∨ Names left right path added

theorem compareScalar_names {left right : Json} (path : String)
    (scalars : sameContainer left right = false) :
    AddsNames left right path (compareScalar left right path) := by
  intro mismatches added member
  unfold compareScalar at member
  split at member
  · exact .inl member
  · split at member
    · exact .inl member
    · rename_i different
      rcases List.mem_append.mp member with earlier | last
      · exact .inl earlier
      · rw [List.mem_singleton.mp last]
        exact .inr (.value [] rfl rfl scalars (Bool.eq_false_iff.mpr different))

theorem compareKeys_names {left right : List (String × Json)} (path : String)
    (each : ∀ key value other, left.lookup key = some value → right.lookup key = some other →
      ∀ child, AddsNames value other child (compare value other child))
    (keys : List String)
    (known : ∀ key ∈ keys, key ∈ left.map Prod.fst ∨ key ∈ right.map Prod.fst) :
    AddsNames (.object left) (.object right) path
      (compareKeys (comparisons left) right path keys) := by
  induction keys with
  | nil =>
      intro mismatches added member
      exact .inl (by simpa [compareKeys] using member)
  | cons key keys induction =>
      have following := induction fun other member => known other (List.mem_cons_of_mem key member)
      intro mismatches added member
      rcases lookup_cases left right key with ⟨value, other, found, otherFound⟩ | absent
      · rw [compareKeys_present path keys mismatches found otherFound] at member
        rcases following _ added member with earlier | names
        · rcases each key value other found otherFound _ mismatches added earlier with
            recorded | names
          · exact .inl recorded
          · exact .inr (names.member found otherFound)
        · exact .inr names
      · have named : Names (.object left) (.object right) path (childPath path key) := by
          apply Names.presence [.key key]
          have present := known key List.mem_cons_self
          rw [← Json.lookup_isSome_iff, ← Json.lookup_isSome_iff] at present
          simp only [at?, child?, Option.bind_fun_some]
          rcases absent with absent | absent <;> simpa [absent] using present
        have recorded : ∀ added ∈ mismatches ++ [childPath path key],
            added ∈ mismatches ∨ Names (.object left) (.object right) path added := by
          intro added member
          rcases List.mem_append.mp member with earlier | last
          · exact .inl earlier
          · rw [List.mem_singleton.mp last]
            exact .inr named
        rw [compareKeys_absent path keys mismatches absent] at member
        split at member
        · exact recorded added member
        · rcases following _ added member with earlier | names
          · exact recorded added earlier
          · exact .inr names

/-- An item below the places that a list is compared at from some index on. -/
def ItemNames (left right : List Json) (path : String) (index : Nat) (added : String) : Prop :=
  ∃ position value other, left[position]? = some value ∧ right[position]? = some other ∧
    Names value other (path ++ "[" ++ toString (index + position) ++ "]") added

theorem ItemNames.next {value other : Json} {left right : List Json} {path added : String}
    {index : Nat} (names : ItemNames left right path (index + 1) added) :
    ItemNames (value :: left) (other :: right) path index added := by
  obtain ⟨position, item, otherItem, found, otherFound, named⟩ := names
  have shifted : index + 1 + position = index + (position + 1) := by omega
  rw [shifted] at named
  exact ⟨position + 1, item, otherItem, found, otherFound, named⟩

mutual
theorem compare_names : ∀ (left right : Json) (path : String),
    AddsNames left right path (compare left right path)
  | .object left, right, path => by
      cases right with
      | object right =>
          intro mismatches added member
          rw [compare] at member
          split at member
          · exact .inl member
          · exact compareKeys_names path (fun key value other found _ child =>
              members_names left key value found other child) (sortedKeys left right)
              (fun key present => mem_sortedKeys.mp present) mismatches added member
      | _ => exact compareScalar_names path rfl
  | .array left, right, path => by
      cases right with
      | array right =>
          intro mismatches added member
          have items : ∀ earlier, added ∈ compareItems left right path 0 earlier →
              added ∈ earlier ∨ Names (.array left) (.array right) path added := by
            intro earlier compared
            rcases items_names left right path 0 earlier added compared with recorded | names
            · exact .inl recorded
            · obtain ⟨position, value, other, found, otherFound, named⟩ := names
              rw [Nat.zero_add] at named
              exact .inr (@Names.below (.array left) (.array right) value other path added
                (.index position) found otherFound named)
          rw [compare] at member
          split at member
          · exact .inl member
          · by_cases lengths : left.length = right.length
            · simp only [lengths, ne_eq, not_true_eq_false, if_false] at member
              split at member
              · exact .inl member
              · exact items mismatches member
            · have recorded : added ∈ mismatches ++ [path ++ ".length"] →
                  added ∈ mismatches ∨ Names (.array left) (.array right) path added := by
                intro among
                rcases List.mem_append.mp among with earlier | last
                · exact .inl earlier
                · rw [List.mem_singleton.mp last]
                  exact .inr (.length [] rfl rfl lengths)
              simp only [lengths, ne_eq, not_false_eq_true, if_true] at member
              split at member
              · exact recorded member
              · rcases items _ member with earlier | names
                · exact recorded earlier
                · exact .inr names
      | _ => exact compareScalar_names path rfl
  | .null, _, path => compareScalar_names path rfl
  | .bool _, _, path => compareScalar_names path rfl
  | .integer _, _, path => compareScalar_names path rfl
  | .float _, _, path => compareScalar_names path rfl
  | .notANumber, _, path => compareScalar_names path rfl
  | .infinity _, _, path => compareScalar_names path rfl
  | .string _, _, path => compareScalar_names path rfl

theorem items_names : ∀ (left right : List Json) (path : String) (index : Nat)
    (mismatches : Paths), ∀ added ∈ compareItems left right path index mismatches,
      added ∈ mismatches ∨ ItemNames left right path index added
  | [], right, path, index, mismatches => by
      intro added member
      exact .inl (by simpa [compareItems] using member)
  | value :: left, [], path, index, mismatches => by
      intro added member
      exact .inl (by simpa [compareItems] using member)
  | value :: left, other :: right, path, index, mismatches => by
      intro added member
      have first : added ∈ compare value other (path ++ "[" ++ toString index ++ "]")
          mismatches → added ∈ mismatches ∨
            ItemNames (value :: left) (other :: right) path index added := by
        intro compared
        rcases compare_names value other _ mismatches added compared with earlier | names
        · exact .inl earlier
        · exact .inr ⟨0, value, other, rfl, rfl, names⟩
      simp only [compareItems] at member
      split at member
      · exact first member
      · rcases items_names left right path (index + 1) _ added member with earlier | names
        · exact first earlier
        · exact .inr names.next

theorem members_names : ∀ (left : List (String × Json)) (key : String) (value : Json),
    left.lookup key = some value → ∀ (other : Json) (path : String),
      AddsNames value other path (compare value other path)
  | [], key, value, found, other, path => by cases found
  | (name, item) :: rest, key, value, found, other, path => by
      rw [List.lookup_cons] at found
      split at found
      · cases found
        exact compare_names item other path
      · exact members_names rest key value found other path
end

/-! ## How many paths there are

Two trees have a number of differences, whatever the limit is. -/

/-- The differences at a key of two objects, given the differences of the values. -/
def keyDifferences (counts : List (String × (Json → Nat))) (right : List (String × Json))
    (key : String) : Nat :=
  match counts.lookup key, right.lookup key with
  | some count, some value => count value
  | _, _ => 1

mutual
/-- The places where two trees differ. -/
def differences : Json → Json → Nat
  | .object left, right => match right with
      | .object right =>
          ((sortedKeys left right).map (keyDifferences (counts left) right)).sum
      | _ => 1
  | .array left, right => match right with
      | .array right => (if left.length ≠ right.length then 1 else 0) + itemDifferences left right
      | _ => 1
  | .null, right => if scalarEqual .null right then 0 else 1
  | .bool value, right => if scalarEqual (.bool value) right then 0 else 1
  | .integer value, right => if scalarEqual (.integer value) right then 0 else 1
  | .float value, right => if scalarEqual (.float value) right then 0 else 1
  | .notANumber, right => if scalarEqual .notANumber right then 0 else 1
  | .infinity negative, right => if scalarEqual (.infinity negative) right then 0 else 1
  | .string value, right => if scalarEqual (.string value) right then 0 else 1

def itemDifferences : List Json → List Json → Nat
  | [], _ => 0
  | _ :: _, [] => 0
  | left :: leftRest, right :: rightRest =>
      differences left right + itemDifferences leftRest rightRest

def counts : List (String × Json) → List (String × (Json → Nat))
  | [] => []
  | (key, value) :: rest => (key, differences value) :: counts rest
end

/-- The differences at some keys. -/
def keysDifferences (left right : List (String × Json)) (keys : List String) : Nat :=
  (keys.map (keyDifferences (counts left) right)).sum

/-- A key that one of two objects has. -/
def OneSided (left right : List (String × Json)) (key : String) : Prop :=
  left.lookup key = none ∨ right.lookup key = none

/-- The limit is passed: an object has the last difference within the limit inside the value of
a key, and a later key that only one side has. The number is that of the earlier differences. -/
inductive Overfull : Json → Json → Nat → Prop
  | later {left right : List (String × Json)} {earlier : Nat} (before : List String)
      (key : String) (after : List String) {value other : Json} (oneSided : String) :
      sortedKeys left right = before ++ key :: after →
      left.lookup key = some value → right.lookup key = some other →
      earlier + keysDifferences left right before < maxPaths →
      maxPaths ≤ earlier + keysDifferences left right before + differences value other →
      oneSided ∈ after → OneSided left right oneSided →
      Overfull (.object left) (.object right) earlier
  | member {left right : List (String × Json)} {earlier : Nat} (before : List String)
      (key : String) (after : List String) {value other : Json} :
      sortedKeys left right = before ++ key :: after →
      left.lookup key = some value → right.lookup key = some other →
      Overfull value other (earlier + keysDifferences left right before) →
      Overfull (.object left) (.object right) earlier
  | item {earlier : Nat} (before otherBefore : List Json) {value other : Json}
      (after otherAfter : List Json) : before.length = otherBefore.length →
      Overfull value other (earlier +
        (if (before ++ value :: after).length ≠ (otherBefore ++ other :: otherAfter).length
          then 1 else 0) + itemDifferences before otherBefore) →
      Overfull (.array (before ++ value :: after)) (.array (otherBefore ++ other :: otherAfter))
        earlier

/-! The counts of each shape. -/

theorem counts_lookup (members : List (String × Json)) (key : String) :
    (counts members).lookup key = (members.lookup key).map differences := by
  induction members with
  | nil => rfl
  | cons head rest induction =>
      rw [counts, List.lookup_cons, List.lookup_cons]
      split
      · rfl
      · exact induction

section Keys

variable {left right : List (String × Json)} {key : String} {value other : Json}

theorem keysDifferences_present (keys : List String) (found : left.lookup key = some value)
    (otherFound : right.lookup key = some other) :
    keysDifferences left right (key :: keys) =
      differences value other + keysDifferences left right keys := by
  simp [keysDifferences, keyDifferences, counts_lookup, found, otherFound]

theorem keysDifferences_absent (keys : List String) (oneSided : OneSided left right key) :
    keysDifferences left right (key :: keys) = 1 + keysDifferences left right keys := by
  rcases oneSided with absent | absent
  · simp [keysDifferences, keyDifferences, counts_lookup, absent]
  · cases found : left.lookup key <;>
      simp [keysDifferences, keyDifferences, counts_lookup, absent, found]

theorem keysDifferences_append (before after : List String) :
    keysDifferences left right (before ++ after) =
      keysDifferences left right before + keysDifferences left right after := by
  simp [keysDifferences]

theorem differences_object : differences (.object left) (.object right) =
    keysDifferences left right (sortedKeys left right) := by
  rw [differences, keysDifferences]

end Keys

theorem differences_array (left right : List Json) :
    differences (.array left) (.array right) =
      (if left.length ≠ right.length then 1 else 0) + itemDifferences left right := by
  rw [differences]

theorem differences_scalar {left right : Json} (scalars : sameContainer left right = false) :
    differences left right = if scalarEqual left right then 0 else 1 := by
  cases left <;> cases right <;> first | rfl | cases scalars

theorem itemDifferences_append {before otherBefore : List Json} (after otherAfter : List Json)
    (lengths : before.length = otherBefore.length) :
    itemDifferences (before ++ after) (otherBefore ++ otherAfter) =
      itemDifferences before otherBefore + itemDifferences after otherAfter := by
  induction before generalizing otherBefore with
  | nil =>
      cases List.length_eq_zero_iff.mp lengths.symm
      simp [itemDifferences]
  | cons value before induction =>
      cases otherBefore with
      | nil => simp at lengths
      | cons other otherBefore =>
          have shorter : before.length = otherBefore.length := by simpa using lengths
          simp only [List.cons_append, itemDifferences, induction shorter]
          omega

variable {earlier : Nat}

/-- The limit is passed where it is reached. -/
theorem Overfull.bounds {left right : Json} (beyond : Overfull left right earlier) :
    earlier < maxPaths ∧ maxPaths ≤ earlier + differences left right := by
  induction beyond with
  | later before key after oneSided sorted found otherFound below reached _ _ =>
      rw [differences_object, sorted, keysDifferences_append,
        keysDifferences_present after found otherFound]
      omega
  | member before key after sorted found otherFound _ induction =>
      rw [differences_object, sorted, keysDifferences_append,
        keysDifferences_present after found otherFound]
      omega
  | item before otherBefore after otherAfter lengths _ induction =>
      rw [differences_array, itemDifferences_append _ _ lengths, itemDifferences]
      omega

theorem not_overfull_scalar {left right : Json} (scalars : sameContainer left right = false) :
    ¬Overfull left right earlier := by
  intro beyond
  cases beyond <;> cases scalars

/-! ## The loops -/

/-- How a comparison fills the paths up to the limit, and when it goes beyond. -/
structure Fills (run : Paths → Paths) (count : Nat) (beyond : Nat → Prop) : Prop where
  below : ∀ mismatches, mismatches.length + count < maxPaths →
    (run mismatches).length = mismatches.length + count
  reached : ∀ mismatches, mismatches.length < maxPaths →
    maxPaths ≤ mismatches.length + count → maxPaths ≤ (run mismatches).length
  passed : ∀ mismatches, mismatches.length < maxPaths →
    (maxPaths < (run mismatches).length ↔ beyond mismatches.length)

theorem compare_full (left right : Json) (path : String) {mismatches : Paths}
    (full : maxPaths ≤ mismatches.length) : compare left right path mismatches = mismatches := by
  have scalar : ∀ left right : Json, compareScalar left right path mismatches = mismatches :=
    fun left right => by rw [compareScalar, if_pos full]
  cases left with
  | object left =>
      cases right with
      | object right => rw [compare, if_pos full]
      | _ => exact scalar _ _
  | array left =>
      cases right with
      | array right => rw [compare, if_pos full]
      | _ => exact scalar _ _
  | _ => exact scalar _ _

theorem fills_nothing {run : Paths → Paths} {count : Nat} {beyond : Nat → Prop}
    (same : ∀ mismatches, run mismatches = mismatches) (none : count = 0)
    (never : ∀ earlier, ¬beyond earlier) : Fills run count beyond := by
  constructor
  · intro mismatches _
    rw [same, none]
    rfl
  · intro mismatches below reached
    omega
  · intro mismatches below
    rw [same]
    exact iff_of_false (by omega) (never _)

theorem compareScalar_fills {left right : Json} (path : String)
    (scalars : sameContainer left right = false) :
    Fills (compareScalar left right path) (differences left right) (Overfull left right) := by
  have run : ∀ mismatches : Paths, mismatches.length < maxPaths →
      (compareScalar left right path mismatches).length =
        mismatches.length + differences left right := by
    intro mismatches below
    rw [compareScalar, if_neg (by omega), differences_scalar scalars]
    split
    · rfl
    · rw [List.length_append]
      rfl
  have small : differences left right ≤ 1 := by
    rw [differences_scalar scalars]
    split <;> omega
  constructor
  · intro mismatches below
    exact run mismatches (by omega)
  · intro mismatches below reached
    rw [run mismatches below]
    exact reached
  · intro mismatches below
    rw [run mismatches below]
    constructor
    · intro passed
      omega
    · intro beyond
      exact absurd beyond (not_overfull_scalar scalars)

section Keys

variable {left right : List (String × Json)} {key : String} {value other : Json}

/-- The limit is passed in the loop over some keys. -/
def KeysOverfull (left right : List (String × Json)) (earlier : Nat) (keys : List String) : Prop :=
  ∃ before key after value other, keys = before ++ key :: after ∧
    left.lookup key = some value ∧ right.lookup key = some other ∧
    (Overfull value other (earlier + keysDifferences left right before) ∨
      earlier + keysDifferences left right before < maxPaths ∧
      maxPaths ≤ earlier + keysDifferences left right before + differences value other ∧
      ∃ oneSided ∈ after, OneSided left right oneSided)

theorem overfull_object_iff {earlier : Nat} :
    Overfull (.object left) (.object right) earlier ↔
      KeysOverfull left right earlier (sortedKeys left right) := by
  constructor
  · intro beyond
    cases beyond with
    | later before key after oneSided sorted found otherFound below reached among absent =>
        exact ⟨before, key, after, _, _, sorted, found, otherFound,
          .inr ⟨below, reached, oneSided, among, absent⟩⟩
    | member before key after sorted found otherFound beyond =>
        exact ⟨before, key, after, _, _, sorted, found, otherFound, .inl beyond⟩
  · intro beyond
    obtain ⟨before, key, after, value, other, sorted, found, otherFound, cause⟩ := beyond
    rcases cause with beyond | ⟨below, reached, oneSided, among, absent⟩
    · exact .member before key after sorted found otherFound beyond
    · exact .later before key after oneSided sorted found otherFound below reached among absent

theorem KeysOverfull.lt {earlier : Nat} {keys : List String}
    (beyond : KeysOverfull left right earlier keys) : earlier < maxPaths := by
  obtain ⟨before, key, after, value, other, _, _, _, cause⟩ := beyond
  rcases cause with beyond | ⟨below, _⟩
  · have bounds := beyond.bounds
    omega
  · omega

theorem keysOverfull_present {earlier : Nat} {keys : List String}
    (found : left.lookup key = some value) (otherFound : right.lookup key = some other) :
    KeysOverfull left right earlier (key :: keys) ↔
      (Overfull value other earlier ∨
        earlier < maxPaths ∧ maxPaths ≤ earlier + differences value other ∧
        ∃ oneSided ∈ keys, OneSided left right oneSided) ∨
      KeysOverfull left right (earlier + differences value other) keys := by
  constructor
  · intro beyond
    obtain ⟨before, own, after, ownValue, ownOther, split, ownFound, ownOtherFound, cause⟩ :=
      beyond
    cases before with
    | nil =>
        cases split
        cases found.symm.trans ownFound
        cases otherFound.symm.trans ownOtherFound
        exact .inl cause
    | cons first before =>
        cases split
        rw [keysDifferences_present before found otherFound, ← Nat.add_assoc] at cause
        exact .inr ⟨before, own, after, ownValue, ownOther, rfl, ownFound, ownOtherFound, cause⟩
  · intro beyond
    rcases beyond with cause | ⟨before, own, after, ownValue, ownOther, split, rest⟩
    · exact ⟨[], key, keys, value, other, rfl, found, otherFound, cause⟩
    · refine ⟨key :: before, own, after, ownValue, ownOther, by rw [split]; rfl, ?_⟩
      rw [keysDifferences_present before found otherFound, ← Nat.add_assoc]
      exact rest

theorem keysOverfull_absent {earlier : Nat} {keys : List String}
    (oneSided : OneSided left right key) :
    KeysOverfull left right earlier (key :: keys) ↔
      KeysOverfull left right (earlier + 1) keys := by
  constructor
  · intro beyond
    obtain ⟨before, own, after, value, other, split, found, otherFound, cause⟩ := beyond
    cases before with
    | nil =>
        cases split
        rcases oneSided with absent | absent
        · cases absent.symm.trans found
        · cases absent.symm.trans otherFound
    | cons first before =>
        cases split
        rw [keysDifferences_absent before oneSided, ← Nat.add_assoc] at cause
        exact ⟨before, own, after, value, other, rfl, found, otherFound, cause⟩
  · intro beyond
    obtain ⟨before, own, after, value, other, split, rest⟩ := beyond
    refine ⟨key :: before, own, after, value, other, by rw [split]; rfl, ?_⟩
    rw [keysDifferences_absent before oneSided, ← Nat.add_assoc]
    exact rest

/-- Once the paths are full, the loop records one more key, if a later key is on one side. -/
theorem compareKeys_full (path : String) (keys : List String) {mismatches : Paths}
    (full : maxPaths ≤ mismatches.length) :
    maxPaths ≤ (compareKeys (comparisons left) right path keys mismatches).length ∧
      (maxPaths < (compareKeys (comparisons left) right path keys mismatches).length ↔
        maxPaths < mismatches.length ∨ ∃ oneSided ∈ keys, OneSided left right oneSided) := by
  induction keys with
  | nil => simp [compareKeys, full]
  | cons key keys induction =>
      rcases lookup_cases left right key with ⟨value, other, found, otherFound⟩ | absent
      · have present : ¬OneSided left right key := by simp [OneSided, found, otherFound]
        rw [compareKeys_present path keys mismatches found otherFound, compare_full _ _ _ full,
          List.exists_mem_cons_iff, or_iff_right present]
        exact induction
      · have longer : (mismatches ++ [childPath path key]).length = mismatches.length + 1 := by
          simp
        rw [compareKeys_absent path keys mismatches absent, if_pos (by omega), longer]
        constructor
        · omega
        · exact iff_of_true (by omega) (.inr ⟨key, List.mem_cons_self, absent⟩)

theorem compareKeys_fills (path : String)
    (each : ∀ key value other, left.lookup key = some value → right.lookup key = some other →
      ∀ child, Fills (compare value other child) (differences value other)
        (Overfull value other)) :
    ∀ keys : List String, Fills (compareKeys (comparisons left) right path keys)
      (keysDifferences left right keys) (KeysOverfull left right · keys)
  | [] => by
      have beyond : ∀ earlier, ¬KeysOverfull left right earlier [] := by
        intro earlier beyond
        obtain ⟨before, key, after, _, _, split, _⟩ := beyond
        simp at split
      exact fills_nothing (fun mismatches => by rw [compareKeys]) rfl beyond
  | key :: keys => by
      have following := compareKeys_fills path each keys
      rcases lookup_cases left right key with ⟨value, other, found, otherFound⟩ | absent
      · have first := each key value other found otherFound (childPath path key)
        constructor
        · intro mismatches below
          rw [keysDifferences_present keys found otherFound] at below ⊢
          have length := first.below mismatches (by omega)
          rw [compareKeys_present path keys mismatches found otherFound,
            following.below _ (by omega), length, Nat.add_assoc]
        · intro mismatches below reached
          rw [keysDifferences_present keys found otherFound] at reached
          rw [compareKeys_present path keys mismatches found otherFound]
          by_cases within : mismatches.length + differences value other < maxPaths
          · have length := first.below mismatches within
            exact following.reached _ (by omega) (by omega)
          · exact (compareKeys_full path keys
              (first.reached mismatches below (by omega))).1
        · intro mismatches below
          rw [compareKeys_present path keys mismatches found otherFound,
            keysOverfull_present found otherFound]
          by_cases within : mismatches.length + differences value other < maxPaths
          · -- The value leaves room: the rest of the loop decides.
            have length := first.below mismatches within
            rw [following.passed _ (by omega), length]
            constructor
            · exact .inr
            · intro beyond
              rcases beyond with (beyond | beyond) | beyond
              · have bounds := beyond.bounds
                omega
              · omega
              · exact beyond
          · have full := first.reached mismatches below (by omega)
            rw [(compareKeys_full path keys full).2, first.passed mismatches below]
            constructor
            · intro beyond
              rcases beyond with beyond | oneSided
              · exact .inl (.inl beyond)
              · exact .inl (.inr ⟨below, by omega, oneSided⟩)
            · intro beyond
              rcases beyond with (beyond | beyond) | beyond
              · exact .inl beyond
              · exact .inr beyond.2.2
              · have limit := beyond.lt
                omega
      · have longer : ∀ mismatches : Paths,
            (mismatches ++ [childPath path key]).length = mismatches.length + 1 := by simp
        constructor
        · intro mismatches below
          rw [keysDifferences_absent keys absent] at below ⊢
          have length := longer mismatches
          rw [compareKeys_absent path keys mismatches absent, if_neg (by omega),
            following.below _ (by omega), length]
          omega
        · intro mismatches below reached
          rw [keysDifferences_absent keys absent] at reached
          have length := longer mismatches
          rw [compareKeys_absent path keys mismatches absent]
          split
          · assumption
          · exact following.reached _ (by omega) (by omega)
        · intro mismatches below
          have length := longer mismatches
          rw [compareKeys_absent path keys mismatches absent, keysOverfull_absent absent]
          split
          · -- The key takes the last place, and the loop ends.
            apply iff_of_false
            · omega
            · intro beyond
              have limit := beyond.lt
              omega
          · rw [following.passed _ (by omega), length]

end Keys

/-- The limit is passed in the loop over the items of two lists. -/
def ItemsOverfull (left right : List Json) (earlier : Nat) : Prop :=
  ∃ before otherBefore value other after otherAfter,
    left = before ++ value :: after ∧ right = otherBefore ++ other :: otherAfter ∧
    before.length = otherBefore.length ∧
    Overfull value other (earlier + itemDifferences before otherBefore)

theorem overfull_array_iff {left right : List Json} :
    Overfull (.array left) (.array right) earlier ↔
      ItemsOverfull left right (earlier + if left.length ≠ right.length then 1 else 0) := by
  constructor
  · intro beyond
    cases beyond with
    | item before otherBefore after otherAfter lengths beyond =>
        exact ⟨before, otherBefore, _, _, after, otherAfter, rfl, rfl, lengths, beyond⟩
  · intro beyond
    obtain ⟨before, otherBefore, value, other, after, otherAfter, rfl, rfl, lengths, beyond⟩ :=
      beyond
    exact .item before otherBefore after otherAfter lengths beyond

theorem ItemsOverfull.lt {left right : List Json} (beyond : ItemsOverfull left right earlier) :
    earlier < maxPaths := by
  obtain ⟨before, otherBefore, value, other, after, otherAfter, _, _, _, beyond⟩ := beyond
  have bounds := beyond.bounds
  omega

theorem itemsOverfull_cons {value other : Json} {left right : List Json} :
    ItemsOverfull (value :: left) (other :: right) earlier ↔
      Overfull value other earlier ∨
        ItemsOverfull left right (earlier + differences value other) := by
  constructor
  · intro beyond
    obtain ⟨before, otherBefore, own, ownOther, after, otherAfter, split, otherSplit, lengths,
      beyond⟩ := beyond
    cases before with
    | nil =>
        cases List.length_eq_zero_iff.mp lengths.symm
        cases split
        cases otherSplit
        exact .inl beyond
    | cons first before =>
        cases otherBefore with
        | nil => simp at lengths
        | cons otherFirst otherBefore =>
            cases split
            cases otherSplit
            rw [itemDifferences, ← Nat.add_assoc] at beyond
            exact .inr ⟨before, otherBefore, own, ownOther, after, otherAfter, rfl, rfl,
              by simpa using lengths, beyond⟩
  · intro beyond
    rcases beyond with beyond | ⟨before, otherBefore, own, ownOther, after, otherAfter, split,
      otherSplit, lengths, beyond⟩
    · exact ⟨[], [], value, other, left, right, rfl, rfl, rfl, beyond⟩
    · refine ⟨value :: before, other :: otherBefore, own, ownOther, after, otherAfter,
        by rw [split]; rfl, by rw [otherSplit]; rfl, by simpa using lengths, ?_⟩
      rw [itemDifferences, ← Nat.add_assoc]
      exact beyond

/-- The length of a list is compared before its items. -/
theorem compare_array_fills {left right : List Json} (path : String)
    (items : Fills (compareItems left right path 0) (itemDifferences left right)
      (ItemsOverfull left right)) :
    Fills (compare (.array left) (.array right) path)
      (differences (.array left) (.array right)) (Overfull (.array left) (.array right)) := by
  have run : ∀ mismatches : Paths, mismatches.length < maxPaths →
      ∃ started : Paths, started.length =
          mismatches.length + (if left.length ≠ right.length then 1 else 0) ∧
        compare (.array left) (.array right) path mismatches =
          if maxPaths ≤ started.length then started
          else compareItems left right path 0 started := by
    intro mismatches below
    refine ⟨if left.length ≠ right.length then mismatches ++ [path ++ ".length"]
      else mismatches, ?_, ?_⟩
    · split
      · rw [List.length_append]
        rfl
      · rfl
    · rw [compare, if_neg (by omega)]
  constructor
  · intro mismatches below
    rw [differences_array] at below ⊢
    obtain ⟨started, length, equal⟩ := run mismatches (by omega)
    rw [equal, if_neg (by omega), items.below _ (by omega), length, Nat.add_assoc]
  · intro mismatches below reached
    rw [differences_array] at reached
    obtain ⟨started, length, equal⟩ := run mismatches below
    rw [equal]
    split
    · assumption
    · exact items.reached _ (by omega) (by omega)
  · intro mismatches below
    obtain ⟨started, length, equal⟩ := run mismatches below
    rw [equal, overfull_array_iff, ← length]
    split
    · have most : started.length ≤ mismatches.length + 1 := by
        rw [length]
        split <;> omega
      apply iff_of_false
      · omega
      · intro beyond
        have limit := beyond.lt
        omega
    · exact items.passed started (by omega)

mutual
theorem compare_fills : ∀ (left right : Json) (path : String),
    Fills (compare left right path) (differences left right) (Overfull left right)
  | .object left, right, path => by
      cases right with
      | object right =>
          have keys : Fills
              (compareKeys (comparisons left) right path (sortedKeys left right))
              (keysDifferences left right (sortedKeys left right))
              (KeysOverfull left right · (sortedKeys left right)) :=
            compareKeys_fills path (fun key value other found _ child =>
              members_fill left key value found other child) _
          rw [differences_object]
          have run : ∀ mismatches : Paths, mismatches.length < maxPaths →
              compare (.object left) (.object right) path mismatches =
                compareKeys (comparisons left) right path (sortedKeys left right)
                  mismatches := by
            intro mismatches below
            rw [compare, if_neg (by omega)]
          constructor
          · intro mismatches below
            rw [run mismatches (by omega)]
            exact keys.below mismatches below
          · intro mismatches below reached
            rw [run mismatches below]
            exact keys.reached mismatches below reached
          · intro mismatches below
            rw [run mismatches below, overfull_object_iff]
            exact keys.passed mismatches below
      | _ => exact compareScalar_fills path rfl
  | .array left, right, path => by
      cases right with
      | array right => exact compare_array_fills path (items_fill left right path 0)
      | _ => exact compareScalar_fills path rfl
  | .null, _, path => compareScalar_fills path rfl
  | .bool _, _, path => compareScalar_fills path rfl
  | .integer _, _, path => compareScalar_fills path rfl
  | .float _, _, path => compareScalar_fills path rfl
  | .notANumber, _, path => compareScalar_fills path rfl
  | .infinity _, _, path => compareScalar_fills path rfl
  | .string _, _, path => compareScalar_fills path rfl

theorem items_fill : ∀ (left right : List Json) (path : String) (index : Nat),
    Fills (compareItems left right path index) (itemDifferences left right)
      (ItemsOverfull left right)
  | [], right, path, index => by
      apply fills_nothing
      · intro mismatches
        rw [compareItems]
      · rw [itemDifferences]
      · intro earlier beyond
        obtain ⟨before, _, _, _, _, _, split, _⟩ := beyond
        simp at split
  | value :: left, [], path, index => by
      apply fills_nothing
      · intro mismatches
        rw [compareItems]
      · rw [itemDifferences]
      · intro earlier beyond
        obtain ⟨_, before, _, _, _, _, _, split, _⟩ := beyond
        simp at split
  | value :: left, other :: right, path, index => by
      have first := compare_fills value other (path ++ "[" ++ toString index ++ "]")
      have following := items_fill left right path (index + 1)
      constructor
      · intro mismatches below
        simp only [itemDifferences] at below ⊢
        have length := first.below mismatches (by omega)
        simp only [compareItems]
        rw [if_neg (by omega), following.below _ (by omega), length, Nat.add_assoc]
      · intro mismatches below reached
        simp only [itemDifferences] at reached
        simp only [compareItems]
        split
        · assumption
        · by_cases within : mismatches.length + differences value other < maxPaths
          · have length := first.below mismatches within
            exact following.reached _ (by omega) (by omega)
          · have full := first.reached mismatches below (by omega)
            omega
      · intro mismatches below
        simp only [compareItems]
        rw [itemsOverfull_cons]
        by_cases within : mismatches.length + differences value other < maxPaths
        · have length := first.below mismatches within
          rw [if_neg (by omega), following.passed _ (by omega), length, or_iff_right]
          intro beyond
          have bounds := beyond.bounds
          omega
        · have full := first.reached mismatches below (by omega)
          rw [if_pos full, first.passed mismatches below, or_iff_left]
          intro beyond
          have limit := beyond.lt
          omega

theorem members_fill : ∀ (left : List (String × Json)) (key : String) (value : Json),
    left.lookup key = some value → ∀ (other : Json) (path : String),
      Fills (compare value other path) (differences value other) (Overfull value other)
  | [], key, value, found, other, path => by cases found
  | (name, item) :: rest, key, value, found, other, path => by
      rw [List.lookup_cons] at found
      split at found
      · cases found
        exact compare_fills item other path
      · exact members_fill rest key value found other path
end

end FinalizerMismatch

open FinalizerMismatch

theorem finalizerPayloadMismatchPaths_eq_nil_iff (persisted rebuilt : FinalizerPayloadV2) :
    finalizerPayloadMismatchPaths persisted rebuilt = [] ↔
      Agrees persisted.body rebuilt.body := by
  obtain ⟨added, extended, _, exact, _⟩ := compare_reports ""
    persisted.body_uniqueKeys rebuilt.body_uniqueKeys []
  rw [finalizerPayloadMismatchPaths, extended, List.nil_append]
  exact exact (by decide)

theorem finalizerPayloadMismatchPaths_length_le_iff (persisted rebuilt : FinalizerPayloadV2) :
    (finalizerPayloadMismatchPaths persisted rebuilt).length ≤ maxPaths ↔
      ¬Overfull persisted.body rebuilt.body 0 := by
  have fills := compare_fills persisted.body rebuilt.body ""
  rw [← not_lt, not_iff_not]
  exact fills.passed [] (by decide)

theorem finalizerPayloadMismatchPaths_names (persisted rebuilt : FinalizerPayloadV2) :
    ∀ path ∈ finalizerPayloadMismatchPaths persisted rebuilt,
      Names persisted.body rebuilt.body "" path := by
  intro path member
  rcases compare_names persisted.body rebuilt.body "" [] path member with none | names
  · cases none
  · exact names

/-- The paths are exact just when the payloads hold no floats that make equality and identity
differ, and no object has a key on one side after the value in which the limit is reached. -/
theorem finalizerPayloadMismatchPaths_exact_iff (persisted rebuilt : FinalizerPayloadV2) :
    ((finalizerPayloadMismatchPaths persisted rebuilt = [] ↔
        persisted.body.Identical rebuilt.body) ∧
      (finalizerPayloadMismatchPaths persisted rebuilt).length ≤ 32 ∧
      ∀ path ∈ finalizerPayloadMismatchPaths persisted rebuilt,
        Names persisted.body rebuilt.body "" path) ↔
    (Agrees persisted.body rebuilt.body ↔ persisted.body.Identical rebuilt.body) ∧
      ¬Overfull persisted.body rebuilt.body 0 := by
  have bounded := finalizerPayloadMismatchPaths_length_le_iff persisted rebuilt
  rw [finalizerPayloadMismatchPaths_eq_nil_iff]
  constructor
  · intro ⟨exact, within, _⟩
    exact ⟨exact, bounded.mp within⟩
  · intro ⟨exact, within⟩
    exact ⟨exact, bounded.mpr within, finalizerPayloadMismatchPaths_names persisted rebuilt⟩

/-! Thirty-two notes differ, and a later key of the state is on one side. -/

def crowdedNotes (version : Int) : Json :=
  .object ((List.range 32).map fun index => ("note" ++ toString index, .integer version))

theorem crowdedNotes_uniqueKeys (version : Int) : (crowdedNotes version).UniqueKeys := by
  constructor
  · rw [List.map_map]
    show ((List.range 32).map fun index => "note" ++ toString index).Nodup
    decide +kernel
  · induction List.range 32 with
    | nil => trivial
    | cons _ _ induction => exact ⟨trivial, induction⟩

def crowdedState (version : Int) (later : List (String × Json)) : List (String × Json) :=
  ("notes", crowdedNotes version) :: later

def persistedState : StateDelta where
  state := crowdedState 1 [("outcome", .null)]
  uniqueKeys := ⟨by decide, crowdedNotes_uniqueKeys 1, trivial, trivial⟩
  embeddedFinal := trivial

def rebuiltState : StateDelta where
  state := crowdedState 2 []
  uniqueKeys := ⟨by decide, crowdedNotes_uniqueKeys 2, trivial⟩
  embeddedFinal := trivial

theorem finalizerPayloadMismatchPaths_overfull :
    ¬ ∀ persisted rebuilt : FinalizerPayloadV2,
      (finalizerPayloadMismatchPaths persisted rebuilt = [] ↔
        persisted.body.Identical rebuilt.body) ∧
      (finalizerPayloadMismatchPaths persisted rebuilt).length ≤ 32 ∧
      ∀ path ∈ finalizerPayloadMismatchPaths persisted rebuilt,
        Names persisted.body rebuilt.body "" path := by
  intro property
  have within := (property (segmentPayload persistedState) (segmentPayload rebuiltState)).2.1
  have count : (finalizerPayloadMismatchPaths (segmentPayload persistedState)
      (segmentPayload rebuiltState)).length = 33 := by decide +kernel
  omega

end SupportGuard
