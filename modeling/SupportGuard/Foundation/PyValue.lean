import SupportGuard.Foundation.Json

/-! # Dynamically typed values

Values of an untyped source language, as far as a serializer can tell them
apart. Strings are sequences of code points and may hold surrogates, which no
UTF-8 text can represent. -/

namespace Foundation

/-! ## Strings of code points -/

inductive CodePoint
  | scalar (character : Char)
  | surrogate (index : Fin 0x800)
deriving DecidableEq

namespace CodePoint

def scalar? : CodePoint → Option Char
  | .scalar character => some character
  | .surrogate _ => none

end CodePoint

abbrev PyText := List CodePoint

namespace PyText

def ofString (text : String) : PyText :=
  text.toList.map .scalar

def scalars? : PyText → Option (List Char)
  | [] => some []
  | point :: rest => do
      let character ← point.scalar?
      let characters ← scalars? rest
      some (character :: characters)

/-- The text as Unicode scalars; none when it holds a surrogate. -/
def encode? (text : PyText) : Option String :=
  (scalars? text).map String.ofList

theorem scalars?_eq_some {text : PyText} {characters : List Char} :
    scalars? text = some characters ↔ text = characters.map .scalar := by
  induction text generalizing characters with
  | nil => cases characters <;> simp [scalars?]
  | cons point rest induction =>
      cases point with
      | scalar character =>
          cases characters <;>
            simp [scalars?, CodePoint.scalar?, Option.bind_eq_some_iff, induction, and_comm]
      | surrogate index => cases characters <;> simp [scalars?, CodePoint.scalar?]

theorem encode?_eq_some {text : PyText} {encoded : String} :
    encode? text = some encoded ↔ text = ofString encoded := by
  simp only [encode?, Option.map_eq_some_iff, scalars?_eq_some, ofString]
  constructor
  · rintro ⟨characters, equal, rfl⟩
    simpa using equal
  · intro equal
    exact ⟨encoded.toList, equal, String.ofList_toList⟩

theorem ofString_injective : Function.Injective ofString := by
  intro left right equal
  have encoded := encode?_eq_some.mpr equal
  rw [encode?_eq_some.mpr rfl] at encoded
  exact Option.some.inj encoded

end PyText

/-! ## Dictionaries -/

section

variable {Key Value : Type} [DecidableEq Key]

/-- Assignment of one key of a dictionary: a key that is already there keeps
its place. -/
def assign (entries : List (Key × Value)) (key : Key) (value : Value) :
    List (Key × Value) :=
  if key ∈ entries.map Prod.fst then
    entries.map fun entry => if entry.1 = key then (key, value) else entry
  else entries ++ [(key, value)]

variable {entries : List (Key × Value)}

theorem assign_of_notMem {key : Key} (value : Value) (absent : key ∉ entries.map Prod.fst) :
    assign entries key value = entries ++ [(key, value)] := by
  rw [assign, if_neg absent]

variable {value : Value}

theorem mem_of_lookup {key : Key} (found : entries.lookup key = some value) :
    (key, value) ∈ entries := by
  rcases List.lookup_eq_some_iff.mp found with ⟨before, after, rfl, _⟩
  exact List.mem_append_right _ List.mem_cons_self

theorem keys_assign_of_mem {key : Key} (value : Value) (present : key ∈ entries.map Prod.fst) :
    (assign entries key value).map Prod.fst = entries.map Prod.fst := by
  rw [assign, if_pos present, List.map_map]
  apply List.map_congr_left
  intro entry _
  by_cases equal : entry.1 = key <;> simp [equal]

theorem mem_keys_assign {key other : Key} :
    other ∈ (assign entries key value).map Prod.fst ↔
      other ∈ entries.map Prod.fst ∨ other = key := by
  by_cases present : key ∈ entries.map Prod.fst
  · rw [keys_assign_of_mem value present]
    constructor
    · exact .inl
    · intro either
      rcases either with member | same
      · exact member
      · exact same ▸ present
  · rw [assign_of_notMem value present, List.map_append, List.mem_append]
    simp

theorem assign_nodup_keys (key : Key) (value : Value) (nodup : (entries.map Prod.fst).Nodup) :
    ((assign entries key value).map Prod.fst).Nodup := by
  by_cases present : key ∈ entries.map Prod.fst
  · rw [keys_assign_of_mem value present]
    exact nodup
  · rw [assign_of_notMem value present, List.map_append]
    refine List.nodup_append.mpr ⟨nodup, by simp, ?_⟩
    intro other member added single equal
    simp only [List.map_cons, List.map_nil, List.mem_singleton] at single
    exact present (single ▸ equal ▸ member)

theorem mem_assign {key : Key} {entry : Key × Value} (member : entry ∈ assign entries key value) :
    entry ∈ entries ∨ entry = (key, value) := by
  unfold assign at member
  split at member
  · rcases List.mem_map.mp member with ⟨old, oldMember, equal⟩
    split at equal
    · exact .inr equal.symm
    · exact .inl (equal ▸ oldMember)
  · simpa using member

theorem assign_of_lookup {key : Key} (nodup : (entries.map Prod.fst).Nodup)
    (found : entries.lookup key = some value) :
    assign entries key value = entries := by
  rcases List.lookup_eq_some_iff.mp found with ⟨before, after, rfl, _⟩
  rw [assign, if_pos (List.mem_map_of_mem (List.mem_append_right _ List.mem_cons_self))]
  have unchanged : ∀ entry ∈ before ++ (key, value) :: after,
      (if entry.1 = key then (key, value) else entry) = entry := by
    intro entry member
    split
    · rename_i same
      have distinct := nodup
      rw [List.map_append, List.map_cons] at distinct
      rcases List.mem_append.mp member with earlier | here
      · have inFront : entry.1 ∈ before.map Prod.fst := List.mem_map_of_mem earlier
        rw [same] at inFront
        exact absurd List.mem_cons_self (List.disjoint_of_nodup_append distinct inFront)
      · rcases List.mem_cons.mp here with equal | later
        · exact equal.symm
        · have rest := (List.nodup_append.mp distinct).2.1
          have behind : entry.1 ∈ after.map Prod.fst := List.mem_map_of_mem later
          rw [same] at behind
          exact absurd behind (List.nodup_cons.mp rest).1
    · rfl
  rw [List.map_congr_left unchanged, List.map_id']

theorem lookup_map_assigned {key other : Key} (different : other ≠ key) :
    (entries.map fun entry => if entry.1 = key then (key, value) else entry).lookup other =
      entries.lookup other := by
  induction entries with
  | nil => rfl
  | cons entry rest induction =>
      rcases entry with ⟨name, old⟩
      rw [List.map_cons]
      by_cases same : name = key
      · subst same
        rw [if_pos rfl, List.lookup_cons, List.lookup_cons, beq_false_of_ne different, induction]
      · rw [if_neg same, List.lookup_cons, List.lookup_cons, induction]

theorem lookup_assign_of_ne {key other : Key} (different : other ≠ key) :
    (assign entries key value).lookup other = entries.lookup other := by
  rw [assign]
  split
  · exact lookup_map_assigned different
  · rw [List.lookup_append, List.lookup_cons, beq_false_of_ne different, List.lookup_nil,
      Option.or_none]

theorem lookup_assign_self (entries : List (Key × Value)) (key : Key) (value : Value) :
    (assign entries key value).lookup key = some value := by
  rw [assign]
  split
  · rename_i present
    induction entries with
    | nil => cases present
    | cons entry rest induction =>
        rcases entry with ⟨name, old⟩
        rw [List.map_cons]
        by_cases same : name = key
        · subst same
          rw [if_pos rfl, List.lookup_cons_self]
        · rw [if_neg same, List.lookup_cons, beq_false_of_ne (Ne.symm same)]
          apply induction
          rcases List.mem_cons.mp present with equal | later
          · exact absurd equal.symm same
          · exact later
  · rename_i absent
    have missing : entries.lookup key = none := by
      rw [List.lookup_eq_none_iff]
      intro entry member
      rw [bne_iff_ne]
      intro equal
      exact absent (equal ▸ List.mem_map_of_mem member)
    rw [List.lookup_append, List.lookup_cons_self, missing, Option.none_or]

end

/-! ## Values -/

inductive FloatValue
  | finite (literal : FloatLiteral)
  | notANumber
  | infinity (negative : Bool)
deriving DecidableEq

/-- A mapping key that is not a string is known by its printed form. -/
inductive PyKey
  | string (text : PyText)
  | other (printed : PyText)
deriving DecidableEq

/-- Values outside the JSON types keep their type's name and their printed
form, the two things a serializer may ask them for. -/
inductive PyValue
  | none
  | bool (value : Bool)
  | integer (value : Int)
  | float (value : FloatValue)
  | string (value : PyText)
  | dict (entries : List (PyKey × PyValue))
  | mapping (printed : PyText) (entries : List (PyKey × PyValue))
  | list (items : List PyValue)
  | sequence (typeName : String) (printed : PyText)
  | binary (typeName : String) (printed : PyText)
  | other (typeName : String) (printed : PyText)

namespace PyValue

/-! A JSON tree read back from its column. -/

mutual
def ofJson : Json → PyValue
  | .null => .none
  | .bool value => .bool value
  | .integer value => .integer value
  | .float literal => .float (.finite literal)
  | .notANumber => .float .notANumber
  | .infinity negative => .float (.infinity negative)
  | .string text => .string (PyText.ofString text)
  | .array items => .list (ofItems items)
  | .object members => .dict (ofMembers members)

def ofItems : List Json → List PyValue
  | [] => []
  | item :: rest => ofJson item :: ofItems rest

def ofMembers : List (String × Json) → List (PyKey × PyValue)
  | [] => []
  | (key, value) :: rest => (.string (PyText.ofString key), ofJson value) :: ofMembers rest
end

mutual
/-- Every mapping of the value holds each of its keys once. -/
def UniqueKeys : PyValue → Prop
  | .dict entries => (entries.map Prod.fst).Nodup ∧ EntriesUniqueKeys entries
  | .mapping _ entries => (entries.map Prod.fst).Nodup ∧ EntriesUniqueKeys entries
  | .list items => ItemsUniqueKeys items
  | _ => True

def ItemsUniqueKeys : List PyValue → Prop
  | [] => True
  | head :: tail => head.UniqueKeys ∧ ItemsUniqueKeys tail

def EntriesUniqueKeys : List (PyKey × PyValue) → Prop
  | [] => True
  | (_, value) :: tail => value.UniqueKeys ∧ EntriesUniqueKeys tail
end

variable {entries : List (PyKey × PyValue)}

theorem entriesUniqueKeys_of_forall (unique : ∀ entry ∈ entries, entry.2.UniqueKeys) :
    EntriesUniqueKeys entries := by
  induction entries with
  | nil => trivial
  | cons head tail induction =>
      exact ⟨unique head (by simp), induction fun entry member =>
        unique entry (List.mem_cons_of_mem _ member)⟩

theorem EntriesUniqueKeys.of_mem (unique : EntriesUniqueKeys entries) {entry : PyKey × PyValue}
    (member : entry ∈ entries) : entry.2.UniqueKeys := by
  induction entries with
  | nil => cases member
  | cons head tail induction =>
      rcases List.mem_cons.mp member with equal | later
      · rw [equal]
        exact unique.1
      · exact induction unique.2 later

/-! ## The JSON value a dynamic value stands for -/

mutual
def Denotes : PyValue → Json → Prop
  | .none, tree => tree = .null
  | .bool value, tree => tree = .bool value
  | .integer value, tree => tree = .integer value
  | .string text, tree => ∃ value, tree = .string value ∧ text = PyText.ofString value
  | .dict entries, tree => ∃ members, tree = .object members ∧
      EntriesDenote entries members
  | .mapping _ entries, tree => ∃ members, tree = .object members ∧
      EntriesDenote entries members
  | .list items, tree => ∃ trees, tree = .array trees ∧ ItemsDenote items trees
  | _, _ => False

def ItemsDenote : List PyValue → List Json → Prop
  | [], trees => trees = []
  | head :: tail, trees => ∃ tree rest, trees = tree :: rest ∧
      head.Denotes tree ∧ ItemsDenote tail rest

def EntriesDenote : List (PyKey × PyValue) → List (String × Json) → Prop
  | [], members => members = []
  | (key, value) :: tail, members => ∃ name tree rest,
      members = (name, tree) :: rest ∧ key = .string (PyText.ofString name) ∧
      value.Denotes tree ∧ EntriesDenote tail rest
end

variable {members : List (String × Json)}

theorem EntriesDenote.keys (denotes : EntriesDenote entries members) :
    entries.map Prod.fst =
      members.map fun member => .string (PyText.ofString member.1) := by
  induction entries generalizing members with
  | nil => simp [show members = [] from denotes]
  | cons head tail induction =>
      rcases denotes with ⟨name, tree, rest, rfl, key, _, following⟩
      simp [key, induction following]

theorem EntriesDenote.nodup_keys (denotes : EntriesDenote entries members)
    (nodup : (entries.map Prod.fst).Nodup) : (members.map Prod.fst).Nodup := by
  rw [denotes.keys] at nodup
  refine List.Nodup.of_map (fun name => PyKey.string (PyText.ofString name)) ?_
  rw [List.map_map]
  exact nodup

mutual
/-- A value without repeated keys stands for a tree without repeated keys. -/
theorem Denotes.uniqueKeys : ∀ {value : PyValue} {tree : Json},
    value.Denotes tree → value.UniqueKeys → tree.UniqueKeys
  | .none, _, denotes, _ => by subst denotes; trivial
  | .bool _, _, denotes, _ => by subst denotes; trivial
  | .integer _, _, denotes, _ => by subst denotes; trivial
  | .string _, _, denotes, _ => by
      rcases denotes with ⟨_, rfl, _⟩
      trivial
  | .dict entries, _, denotes, unique => by
      rcases denotes with ⟨members, rfl, denotes⟩
      exact ⟨denotes.nodup_keys unique.1, EntriesDenote.uniqueKeys denotes unique.2⟩
  | .mapping _ entries, _, denotes, unique => by
      rcases denotes with ⟨members, rfl, denotes⟩
      exact ⟨denotes.nodup_keys unique.1, EntriesDenote.uniqueKeys denotes unique.2⟩
  | .list items, _, denotes, unique => by
      rcases denotes with ⟨trees, rfl, denotes⟩
      exact ItemsDenote.uniqueKeys denotes unique

theorem ItemsDenote.uniqueKeys : ∀ {items : List PyValue} {trees : List Json},
    ItemsDenote items trees → ItemsUniqueKeys items → Json.ItemsUniqueKeys trees
  | [], _, denotes, _ => by subst denotes; trivial
  | head :: tail, _, denotes, unique => by
      rcases denotes with ⟨tree, rest, rfl, first, following⟩
      exact ⟨first.uniqueKeys unique.1, ItemsDenote.uniqueKeys following unique.2⟩

theorem EntriesDenote.uniqueKeys : ∀ {entries : List (PyKey × PyValue)}
    {members : List (String × Json)}, EntriesDenote entries members →
    EntriesUniqueKeys entries → Json.MembersUniqueKeys members
  | [], _, denotes, _ => by subst denotes; trivial
  | (_, value) :: tail, _, denotes, unique => by
      rcases denotes with ⟨name, tree, rest, rfl, _, first, following⟩
      exact ⟨first.uniqueKeys unique.1, EntriesDenote.uniqueKeys following unique.2⟩
end

theorem EntriesDenote.nodup_keys_of (denotes : EntriesDenote entries members)
    (nodup : (members.map Prod.fst).Nodup) : (entries.map Prod.fst).Nodup := by
  have injective : Function.Injective fun name => PyKey.string (PyText.ofString name) := by
    intro left right equal
    exact PyText.ofString_injective (PyKey.string.inj equal)
  have mapped := nodup.map injective
  rw [List.map_map] at mapped
  rw [denotes.keys]
  exact mapped

mutual
/-- Conversely, a value that stands for a tree without repeated keys repeats no
key itself. -/
theorem Denotes.uniqueKeys_of : ∀ {value : PyValue} {tree : Json},
    value.Denotes tree → tree.UniqueKeys → value.UniqueKeys
  | .none, _, _, _ => trivial
  | .bool _, _, _, _ => trivial
  | .integer _, _, _, _ => trivial
  | .string _, _, _, _ => trivial
  | .dict entries, _, denotes, unique => by
      rcases denotes with ⟨members, rfl, denotes⟩
      exact ⟨denotes.nodup_keys_of unique.1, EntriesDenote.uniqueKeys_of denotes unique.2⟩
  | .mapping _ entries, _, denotes, unique => by
      rcases denotes with ⟨members, rfl, denotes⟩
      exact ⟨denotes.nodup_keys_of unique.1, EntriesDenote.uniqueKeys_of denotes unique.2⟩
  | .list items, _, denotes, unique => by
      rcases denotes with ⟨trees, rfl, denotes⟩
      exact ItemsDenote.uniqueKeys_of denotes unique

theorem ItemsDenote.uniqueKeys_of : ∀ {items : List PyValue} {trees : List Json},
    ItemsDenote items trees → Json.ItemsUniqueKeys trees → ItemsUniqueKeys items
  | [], _, _, _ => trivial
  | head :: tail, _, denotes, unique => by
      rcases denotes with ⟨tree, rest, rfl, first, following⟩
      exact ⟨first.uniqueKeys_of unique.1, ItemsDenote.uniqueKeys_of following unique.2⟩

theorem EntriesDenote.uniqueKeys_of : ∀ {entries : List (PyKey × PyValue)}
    {members : List (String × Json)}, EntriesDenote entries members →
    Json.MembersUniqueKeys members → EntriesUniqueKeys entries
  | [], _, _, _ => trivial
  | (_, value) :: tail, _, denotes, unique => by
      rcases denotes with ⟨name, tree, rest, rfl, _, first, following⟩
      exact ⟨first.uniqueKeys_of unique.1, EntriesDenote.uniqueKeys_of following unique.2⟩
end

/-- Two values are equal as JSON values when the trees they stand for agree up
to the order of object members. -/
def JsonEqual (left right : PyValue) : Prop :=
  ∃ leftTree rightTree, left.Denotes leftTree ∧ right.Denotes rightTree ∧
    leftTree.Same rightTree

end PyValue

/-- Mappings of the source language never hold a key twice. -/
structure PyObject where
  value : PyValue
  uniqueKeys : value.UniqueKeys

end Foundation
