import SupportGuard.Foundation.PyEquality
import SupportGuard.Foundation.PyValue
import SupportGuard.Foundation.Fallible
import SupportGuard.Foundation.JsonText
import SupportGuard.Foundation.Sha256

/-! # Canonical JSON

`contracts/canonical_json.py`: the projection that admits a value, the exact
bytes of an admitted value, and their hash. -/

namespace SupportGuard

open Foundation

/-! ## Projection -/

structure CanonicalJsonError where
  message : String
deriving DecidableEq

mutual
def project (path : String) : PyValue → Except CanonicalJsonError Json
  | .none => .ok .null
  | .bool value => .ok (.bool value)
  | .string text => match text.encode? with
      | some value => .ok (.string value)
      | none => .error ⟨s!"invalid Unicode scalar at {path}"⟩
  | .integer value => .ok (.integer value)
  | .dict entries => do
      let members ← projectEntries path [] entries
      .ok (.object members)
  | .mapping _ entries => do
      let members ← projectEntries path [] entries
      .ok (.object members)
  | .list items => do
      let trees ← projectItems path 0 items
      .ok (.array trees)
  | .sequence typeName _ => .error ⟨s!"non-JSON sequence at {path}: {typeName}"⟩
  | .binary typeName _ =>
      .error ⟨s!"unsupported canonical value at {path}: {typeName}"⟩
  | .other typeName _ =>
      .error ⟨s!"unsupported canonical value at {path}: {typeName}"⟩
  | .float _ => .error ⟨s!"unsupported canonical value at {path}: float"⟩

def projectItems (path : String) (index : Nat) :
    List PyValue → Except CanonicalJsonError (List Json)
  | [] => .ok []
  | item :: rest => do
      let tree ← project s!"{path}[{index}]" item
      let trees ← projectItems path (index + 1) rest
      .ok (tree :: trees)

/-- The loop over the items of a mapping; `projected` is the dictionary built
so far. -/
def projectEntries (path : String) (projected : List (String × Json)) :
    List (PyKey × PyValue) →
      Except CanonicalJsonError (List (String × Json))
  | [] => .ok projected
  | (.other _, _) :: _ => .error ⟨s!"object key at {path} must be a string"⟩
  | (.string text, item) :: rest => match text.encode? with
      | none => .error ⟨s!"invalid Unicode object key at {path}"⟩
      | some key => do
          let tree ← project s!"{path}.{key}" item
          projectEntries path (assign projected key tree) rest
end

/-! ## Bytes -/

/-- The bytes of a value; an integer is written however many digits it has, where
`json.dumps` raises for more than 4300. -/
def canonicalJsonBytes (value : PyValue) :
    Except CanonicalJsonError (List UInt8) := do
  let projected ← project "$" value
  .ok (JsonText.utf8 (JsonText.encode projected))

def canonicalJsonHash (value : PyValue) : Except CanonicalJsonError String := do
  let bytes ← canonicalJsonBytes value
  .ok (Sha256.hexDigest bytes)

/-! ## What is admitted

A value is admitted exactly when it stands for a JSON tree, and it is projected
to that tree. -/

/-- A mapping is projected to the object of its projected items. -/
theorem object_eq_ok_iff {loop : Except CanonicalJsonError (List (String × Json))}
    {denotes : List (String × Json) → Prop} {tree : Json}
    (inner : ∀ members, loop = .ok members ↔
      ∃ added, members = [] ++ added ∧ denotes added) :
    (do let members ← loop
        Except.ok (Json.object members)) = .ok tree ↔
      ∃ members, tree = .object members ∧ denotes members := by
  simp only [Fallible.bind_eq_ok_iff, inner, List.nil_append, Except.ok.injEq]
  constructor
  · rintro ⟨members, ⟨_, rfl, holds⟩, rfl⟩
    exact ⟨members, rfl, holds⟩
  · rintro ⟨members, rfl, holds⟩
    exact ⟨members, ⟨members, rfl, holds⟩, rfl⟩

mutual
theorem project_eq_ok_iff : ∀ (value : PyValue) (path : String) (tree : Json),
    value.UniqueKeys → (project path value = .ok tree ↔ value.Denotes tree)
  | .none, _, _, _ => by simp [project, PyValue.Denotes, eq_comm]
  | .bool _, _, _, _ => by simp [project, PyValue.Denotes, eq_comm]
  | .integer _, _, _, _ => by simp [project, PyValue.Denotes, eq_comm]
  | .float _, _, _, _ => by simp [project, PyValue.Denotes]
  | .sequence _ _, _, _, _ => by simp [project, PyValue.Denotes]
  | .binary _ _, _, _, _ => by simp [project, PyValue.Denotes]
  | .other _ _, _, _, _ => by simp [project, PyValue.Denotes]
  | .string text, _, tree, _ => by
      simp only [project, PyValue.Denotes]
      cases encoded : text.encode? with
      | none =>
          simp only [reduceCtorEq, false_iff]
          rintro ⟨value, _, equal⟩
          rw [PyText.encode?_eq_some.mpr equal] at encoded
          cases encoded
      | some value =>
          have equal := PyText.encode?_eq_some.mp encoded
          constructor
          · intro projected
            cases projected
            exact ⟨value, rfl, equal⟩
          · rintro ⟨other, rfl, same⟩
            rw [PyText.ofString_injective (equal.symm.trans same)]
  | .dict entries, path, tree, unique => by
      have inner := fun members => projectEntries_eq_ok_iff entries path [] members
        unique.1 (by simp) unique.2
      exact object_eq_ok_iff inner
  | .mapping _ entries, path, tree, unique => by
      have inner := fun members => projectEntries_eq_ok_iff entries path [] members
        unique.1 (by simp) unique.2
      exact object_eq_ok_iff inner
  | .list items, path, tree, unique => by
      have inner := fun trees => projectItems_eq_ok_iff items path 0 trees unique
      simp only [project, PyValue.Denotes, Fallible.bind_eq_ok_iff, inner]
      constructor
      · rintro ⟨trees, denotes, equal⟩
        cases equal
        exact ⟨trees, rfl, denotes⟩
      · rintro ⟨trees, rfl, denotes⟩
        exact ⟨trees, denotes, rfl⟩

theorem projectItems_eq_ok_iff : ∀ (items : List PyValue) (path : String)
    (index : Nat) (trees : List Json), PyValue.ItemsUniqueKeys items →
    (projectItems path index items = .ok trees ↔ PyValue.ItemsDenote items trees)
  | [], _, _, _, _ => by simp [projectItems, PyValue.ItemsDenote, eq_comm]
  | head :: tail, path, index, trees, unique => by
      have first := fun itemPath tree =>
        project_eq_ok_iff head itemPath tree unique.1
      have following := fun rest =>
        projectItems_eq_ok_iff tail path (index + 1) rest unique.2
      simp only [projectItems, PyValue.ItemsDenote, Fallible.bind_eq_ok_iff, first,
        following, Except.ok.injEq]
      constructor
      · rintro ⟨tree, denotes, rest, restDenotes, rfl⟩
        exact ⟨tree, rest, rfl, denotes, restDenotes⟩
      · rintro ⟨tree, rest, rfl, denotes, restDenotes⟩
        exact ⟨tree, denotes, rest, restDenotes, rfl⟩

theorem projectEntries_eq_ok_iff : ∀ (entries : List (PyKey × PyValue))
    (path : String) (projected members : List (String × Json)),
    (entries.map Prod.fst).Nodup →
    (∀ name ∈ projected.map Prod.fst,
      PyKey.string (PyText.ofString name) ∉ entries.map Prod.fst) →
    PyValue.EntriesUniqueKeys entries →
    (projectEntries path projected entries = .ok members ↔
      ∃ added, members = projected ++ added ∧ PyValue.EntriesDenote entries added)
  | [], _, _, _, _, _, _ => by
      simp [projectEntries, PyValue.EntriesDenote, eq_comm]
  | (.other _, _) :: _, _, _, _, _, _, _ => by
      simp [projectEntries, PyValue.EntriesDenote]
  | (.string text, item) :: rest, path, projected, members, nodup, apart, unique => by
      simp only [List.map_cons, List.nodup_cons] at nodup
      cases encoded : text.encode? with
      | none =>
          simp only [projectEntries, encoded, reduceCtorEq, false_iff]
          rintro ⟨added, _, name, tree, tail, _, key, _⟩
          rw [PyKey.string.injEq] at key
          rw [PyText.encode?_eq_some.mpr key] at encoded
          cases encoded
      | some name =>
          have spelled := PyText.encode?_eq_some.mp encoded
          have absent : name ∉ projected.map Prod.fst := by
            intro member
            exact apart name member (by simp [spelled])
          have first := fun itemPath tree =>
            project_eq_ok_iff item itemPath tree unique.1
          -- Assigning a fresh key appends it, so the keys read so far stay
          -- apart from the keys still to come.
          have following := fun tree => projectEntries_eq_ok_iff rest path
            (projected ++ [(name, tree)]) members nodup.2 (by
              intro other member
              simp only [List.map_append, List.mem_append, List.map_cons,
                List.map_nil, List.mem_singleton] at member
              rcases member with earlier | rfl
              · intro inside
                exact apart other earlier (List.mem_cons_of_mem _ inside)
              · rw [← spelled]
                exact nodup.1) unique.2
          simp only [projectEntries, encoded, Fallible.bind_eq_ok_iff, first,
            assign_of_notMem _ absent, following, PyValue.EntriesDenote]
          constructor
          · rintro ⟨tree, denotes, added, rfl, restDenotes⟩
            exact ⟨(name, tree) :: added, by simp, name, tree, added, rfl,
              by rw [spelled], denotes, restDenotes⟩
          · rintro ⟨_, rfl, other, tree, added, rfl, key, denotes, restDenotes⟩
            rw [PyKey.string.injEq, spelled] at key
            cases PyText.ofString_injective key
            exact ⟨tree, denotes, added, by simp, restDenotes⟩
end

/-- The hash of a value is the hash of the canonical text of its tree. -/
theorem canonicalJsonHash_of_denotes {value : PyValue} {tree : Json}
    (denotes : value.Denotes tree) (unique : tree.UniqueKeys) :
    canonicalJsonHash value =
      .ok (Sha256.hexDigest (JsonText.utf8 (JsonText.encode tree))) := by
  have projected := (project_eq_ok_iff value "$" tree
    (denotes.uniqueKeys_of unique)).mpr denotes
  simp only [canonicalJsonHash, canonicalJsonBytes, projected]
  rfl

mutual
/-- A tree that is encoded again holds no NaN. -/
theorem project_ofJson_holdsNaN : ∀ (value : Json) {path : String} {tree : Json},
    project path (PyValue.ofJson value) = .ok tree → value.holdsNaN = false
  | .null, _, _, _ => rfl
  | .bool _, _, _, _ => rfl
  | .integer _, _, _, _ => rfl
  | .float _, _, _, _ => rfl
  | .notANumber, _, _, projected => by cases projected
  | .infinity _, _, _, _ => rfl
  | .string _, _, _, _ => rfl
  | .array items, _, _, projected => by
      rcases Fallible.bind_eq_ok_iff.mp projected with ⟨trees, itemsProjected, _⟩
      exact projectItems_ofItems_holdsNaN items itemsProjected
  | .object members, _, _, projected => by
      rcases Fallible.bind_eq_ok_iff.mp projected with ⟨trees, membersProjected, _⟩
      exact projectEntries_ofMembers_holdsNaN members membersProjected

theorem projectItems_ofItems_holdsNaN : ∀ (items : List Json) {path : String} {index : Nat}
    {trees : List Json}, projectItems path index (PyValue.ofItems items) = .ok trees →
      Json.itemsHoldNaN items = false
  | [], _, _, _, _ => rfl
  | item :: rest, _, _, _, projected => by
      rcases Fallible.bind_eq_ok_iff.mp projected with ⟨tree, first, following⟩
      rcases Fallible.bind_eq_ok_iff.mp following with ⟨trees, later, _⟩
      rw [Json.itemsHoldNaN, project_ofJson_holdsNaN item first,
        projectItems_ofItems_holdsNaN rest later]
      rfl

theorem projectEntries_ofMembers_holdsNaN : ∀ (members : List (String × Json)) {path : String}
    {before after : List (String × Json)},
      projectEntries path before (PyValue.ofMembers members) = .ok after →
        Json.membersHoldNaN members = false
  | [], _, _, _, _ => rfl
  | (key, value) :: rest, path, before, _, projected => by
      rw [PyValue.ofMembers, projectEntries, PyText.encode?_eq_some.mpr rfl] at projected
      rcases Fallible.bind_eq_ok_iff.mp projected with ⟨tree, first, following⟩
      rw [Json.membersHoldNaN, project_ofJson_holdsNaN value first,
        projectEntries_ofMembers_holdsNaN rest following]
      rfl
end

/-! ## The encoding is faithful -/

theorem canonicalJsonBytes_eq_ok {object : PyObject} {bytes : List UInt8}
    (accepted : canonicalJsonBytes object.value = .ok bytes) :
    ∃ tree, object.value.Denotes tree ∧ bytes = JsonText.utf8 (JsonText.encode tree) := by
  rcases Fallible.bind_eq_ok_iff.mp accepted with ⟨tree, projected, equal⟩
  cases equal
  exact ⟨tree, (project_eq_ok_iff _ _ _ object.uniqueKeys).mp projected, rfl⟩

theorem denotes_unique {object : PyObject} {left right : Json}
    (leftDenotes : object.value.Denotes left)
    (rightDenotes : object.value.Denotes right) : left = right := by
  have leftProjected := (project_eq_ok_iff _ "$" _ object.uniqueKeys).mpr leftDenotes
  have rightProjected := (project_eq_ok_iff _ "$" _ object.uniqueKeys).mpr rightDenotes
  rw [leftProjected] at rightProjected
  exact Except.ok.inj rightProjected

/-- Two admitted values have the same bytes exactly when they are equal as JSON
values, and parsing the bytes of an admitted value returns that value. -/
theorem canonicalJsonBytes_faithful (left right : PyObject)
    (leftBytes rightBytes : List UInt8)
    (leftAccepted : canonicalJsonBytes left.value = .ok leftBytes)
    (rightAccepted : canonicalJsonBytes right.value = .ok rightBytes) :
    (leftBytes = rightBytes ↔ left.value.JsonEqual right.value) ∧
      ∃ tree parsed, left.value.Denotes tree ∧
        JsonText.decodeBytes leftBytes = some parsed ∧ tree.Same parsed := by
  rcases canonicalJsonBytes_eq_ok leftAccepted with ⟨leftTree, leftDenotes, rfl⟩
  rcases canonicalJsonBytes_eq_ok rightAccepted with ⟨rightTree, rightDenotes, rfl⟩
  have leftUnique := leftDenotes.uniqueKeys left.uniqueKeys
  have rightUnique := rightDenotes.uniqueKeys right.uniqueKeys
  refine ⟨?_, leftTree, leftTree.sortKeys, leftDenotes, ?_, leftTree.same_sortKeys⟩
  · rw [JsonText.utf8_injective.eq_iff,
      JsonText.encode_eq_iff_same leftUnique rightUnique]
    constructor
    · intro same
      exact ⟨leftTree, rightTree, leftDenotes, rightDenotes, same⟩
    · rintro ⟨leftOther, rightOther, leftSame, rightSame, same⟩
      rw [denotes_unique leftDenotes leftSame, denotes_unique rightDenotes rightSame]
      exact same
  · rw [JsonText.decodeBytes_utf8, JsonText.decode_encode]

/-- A dictionary whose keys were inserted in descending order. -/
def descendingExample : PyObject where
  value := .dict
    [(.string (PyText.ofString "b"), .bool true),
      (.string (PyText.ofString "a"), .list [.integer 1, .none])]
  uniqueKeys := ⟨by decide, trivial, ⟨trivial, trivial, trivial⟩, trivial⟩

def ascendingExample : PyObject where
  value := .dict
    [(.string (PyText.ofString "a"), .list [.integer 1, .none]),
      (.string (PyText.ofString "b"), .bool true)]
  uniqueKeys := ⟨by decide, ⟨trivial, trivial, trivial⟩, trivial, trivial⟩

theorem canonicalJsonBytes_faithful_reordered :
    let bytes := JsonText.utf8 "\x7b\"a\":[1,null],\"b\":true\x7d".toList
    (bytes = bytes ↔
        descendingExample.value.JsonEqual ascendingExample.value) ∧
      ∃ tree parsed, descendingExample.value.Denotes tree ∧
        JsonText.decodeBytes bytes = some parsed ∧ tree.Same parsed :=
  canonicalJsonBytes_faithful descendingExample ascendingExample _ _ rfl rfl

end SupportGuard
