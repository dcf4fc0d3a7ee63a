import SupportGuard.Foundation.PyValue

/-! # Event payloads

`agent/persistence.py`: what of a payload is kept in the event log. Free text is
redacted, typed identifiers and digests stay, prompts and secrets are dropped. -/

namespace SupportGuard

open Foundation

/-! ## Trusted strings -/

/-- The lowercase form of a code point, as far as it can matter for comparison
with ASCII words: besides the capital letters, only the Kelvin sign and the
dotted capital I have a lowercase form that contains an ASCII letter. -/
def lowerCodePoint : CodePoint → PyText
  | .scalar character =>
      if character = '\u212A' then [.scalar 'k']
      else if character = '\u0130' then [.scalar 'i', .scalar '\u0307']
      else [.scalar character.toLower]
  | .surrogate index => [.surrogate index]

def lowerText (text : PyText) : PyText :=
  text.flatMap lowerCodePoint

def textEndsWith (text : PyText) (ending : String) : Bool :=
  (PyText.ofString ending).isSuffixOf text

def isIdentifierTail (character : Char) : Bool :=
  character.isAlphanum || character == '_' || character == '.' || character == ':' ||
    character == '/' || character == '-'

/-- The whole string is a letter, letters and digits, an underscore, and 1 to 511
identifier characters. The type name has no underscore, so the first one ends
it. -/
def isTypedIdentifier (characters : List Char) : Bool :=
  match characters with
  | [] => false
  | first :: rest =>
      first.isAlpha && match rest.dropWhile Char.isAlphanum with
        | [] => false
        | separator :: tail =>
            separator == '_' && 1 ≤ tail.length && tail.length ≤ 511 &&
              tail.all isIdentifierTail

/-- The whole string is 32 to 128 lowercase hexadecimal characters. -/
def isTypedDigest (characters : List Char) : Bool :=
  32 ≤ characters.length && characters.length ≤ 128 &&
    characters.all fun character =>
      character.isDigit || ('a' ≤ character && character ≤ 'f')

def matchesText (pattern : List Char → Bool) (text : PyText) : Bool :=
  (PyText.scalars? text).any pattern

def trustedStructuralString (key : Option PyText) (value : PyText) : Bool :=
  match key with
  | none => false
  | some key =>
      let normalized := lowerText key
      if normalized = PyText.ofString "id" ∨ textEndsWith normalized "_id" ∨
          textEndsWith normalized "_ids" then
        matchesText isTypedIdentifier value
      else if textEndsWith normalized "_hash" then matchesText isTypedDigest value
      else false

/-! ## The payload that is kept -/

def droppedKeys : List PyText :=
  ["prompt", "system_prompt", "chain_of_thought", "reasoning_content", "api_key"].map
    PyText.ofString

def keyText : PyKey → PyText
  | .string text => text
  | .other printed => printed

section

/-! Redaction of free text is a parameter: `redact_pii(text).text`. -/

variable (redactPii : PyText → PyText)

mutual
def safePayload (key : Option PyText) : PyValue → PyValue
  | .string text =>
      if trustedStructuralString key text then .string (text.take 4000)
      else .string ((redactPii text).take 4000)
  | .dict entries => .dict (safeEntries [] entries)
  | .list items => .list (safeItems key 50 items)
  | .none => .none
  | .bool value => .bool value
  | .integer value => .integer value
  | .float value => .float value
  | .mapping printed _ => .string (printed.take 1000)
  | .sequence _ printed => .string (printed.take 1000)
  | .binary _ printed => .string (printed.take 1000)
  | .other _ printed => .string (printed.take 1000)

/-- The first `count` items. -/
def safeItems (key : Option PyText) (count : Nat) : List PyValue → List PyValue
  | [] => []
  | item :: rest => match count with
      | 0 => []
      | count + 1 => safePayload key item :: safeItems key count rest

/-- The loop of the dictionary display; `kept` is the dictionary so far. Keys
are printed, so distinct keys may meet. -/
def safeEntries (kept : List (PyKey × PyValue)) :
    List (PyKey × PyValue) → List (PyKey × PyValue)
  | [] => kept
  | (itemKey, item) :: rest =>
      let name := keyText itemKey
      if lowerText name ∈ droppedKeys then safeEntries kept rest
      else
        safeEntries (assign kept (.string name) (safePayload (some name) item)) rest
end

/-! Printing keys may make them meet, but a dictionary holds each key once. -/

mutual
theorem safePayload_uniqueKeys : ∀ (key : Option PyText) (value : PyValue),
    (safePayload redactPii key value).UniqueKeys
  | key, .string text => by
      unfold safePayload
      split <;> trivial
  | _, .dict entries => by
      have kept := safeEntries_uniqueKeys [] entries List.nodup_nil trivial
      exact kept
  | key, .list items => safeItems_uniqueKeys key 50 items
  | _, .none => trivial
  | _, .bool _ => trivial
  | _, .integer _ => trivial
  | _, .float _ => trivial
  | _, .mapping _ _ => trivial
  | _, .sequence _ _ => trivial
  | _, .binary _ _ => trivial
  | _, .other _ _ => trivial

theorem safeItems_uniqueKeys : ∀ (key : Option PyText) (count : Nat)
    (items : List PyValue), PyValue.ItemsUniqueKeys (safeItems redactPii key count items)
  | _, _, [] => trivial
  | _, 0, _ :: _ => trivial
  | key, count + 1, item :: rest =>
      ⟨safePayload_uniqueKeys key item, safeItems_uniqueKeys key count rest⟩

theorem safeEntries_uniqueKeys : ∀ kept entries : List (PyKey × PyValue),
    (kept.map Prod.fst).Nodup → PyValue.EntriesUniqueKeys kept →
    ((safeEntries redactPii kept entries).map Prod.fst).Nodup ∧
      PyValue.EntriesUniqueKeys (safeEntries redactPii kept entries)
  | kept, [], nodup, unique => ⟨nodup, unique⟩
  | kept, (itemKey, item) :: rest, nodup, unique => by
      by_cases dropped : lowerText (keyText itemKey) ∈ droppedKeys
      · rw [safeEntries, if_pos dropped]
        exact safeEntries_uniqueKeys kept rest nodup unique
      · rw [safeEntries, if_neg dropped]
        apply safeEntries_uniqueKeys _ rest (assign_nodup_keys _ _ nodup)
        apply PyValue.entriesUniqueKeys_of_forall
        intro entry member
        rcases mem_assign member with earlier | equal
        · exact PyValue.EntriesUniqueKeys.of_mem unique earlier
        · rw [equal]
          exact safePayload_uniqueKeys (some (keyText itemKey)) item
end

end

/-! ## The payload as JSON -/

def FloatValue.toJson : FloatValue → Json
  | .finite literal => .float literal
  | .notANumber => .notANumber
  | .infinity negative => .infinity negative

mutual
/-- The JSON document a payload is stored and hashed as; none when a string
cannot be encoded. -/
def payloadJson? : PyValue → Option Json
  | .none => some .null
  | .bool value => some (.bool value)
  | .integer value => some (.integer value)
  | .float value => some (FloatValue.toJson value)
  | .string text => (text.encode?).map .string
  | .dict entries => (payloadMembers? entries).map .object
  | .list items => (payloadItems? items).map .array
  | _ => none

def payloadItems? : List PyValue → Option (List Json)
  | [] => some []
  | item :: rest => do
      let tree ← payloadJson? item
      let trees ← payloadItems? rest
      some (tree :: trees)

def payloadMembers? : List (PyKey × PyValue) → Option (List (String × Json))
  | [] => some []
  | (.string text, item) :: rest => do
      let name ← text.encode?
      let tree ← payloadJson? item
      let members ← payloadMembers? rest
      some ((name, tree) :: members)
  | (.other _, _) :: _ => none
end

theorem payloadMembers?_keys : ∀ {entries : List (PyKey × PyValue)}
    {members : List (String × Json)}, payloadMembers? entries = some members →
    entries.map Prod.fst = members.map fun member => .string (PyText.ofString member.1)
  | [], _, built => by
      cases built
      rfl
  | (.string text, item) :: rest, members, built => by
      simp only [payloadMembers?, Option.bind_eq_bind, Option.bind_eq_some_iff,
        Option.some.injEq] at built
      rcases built with ⟨name, encoded, tree, _, following, restBuilt, rfl⟩
      simp [PyText.encode?_eq_some.mp encoded, payloadMembers?_keys restBuilt]
  | (.other _, _) :: _, _, built => by cases built

mutual
/-- A payload without repeated keys is stored as a document without repeated
keys. -/
theorem payloadJson?_uniqueKeys : ∀ {value : PyValue} {tree : Json},
    payloadJson? value = some tree → value.UniqueKeys → tree.UniqueKeys
  | .none, _, built, _ => by cases built; trivial
  | .bool _, _, built, _ => by cases built; trivial
  | .integer _, _, built, _ => by cases built; trivial
  | .float value, _, built, _ => by
      cases built
      cases value <;> trivial
  | .string text, _, built, _ => by
      rcases Option.map_eq_some_iff.mp built with ⟨_, _, rfl⟩
      trivial
  | .dict entries, _, built, unique => by
      rcases Option.map_eq_some_iff.mp built with ⟨members, membersBuilt, rfl⟩
      refine ⟨?_, payloadMembers?_uniqueKeys membersBuilt unique.2⟩
      have nodup := unique.1
      rw [payloadMembers?_keys membersBuilt] at nodup
      refine List.Nodup.of_map (fun name => PyKey.string (PyText.ofString name)) ?_
      rw [List.map_map]
      exact nodup
  | .list items, _, built, unique => by
      rcases Option.map_eq_some_iff.mp built with ⟨trees, treesBuilt, rfl⟩
      exact payloadItems?_uniqueKeys treesBuilt unique

theorem payloadItems?_uniqueKeys : ∀ {items : List PyValue} {trees : List Json},
    payloadItems? items = some trees → PyValue.ItemsUniqueKeys items →
    Json.ItemsUniqueKeys trees
  | [], _, built, _ => by cases built; trivial
  | item :: rest, trees, built, unique => by
      simp only [payloadItems?, Option.bind_eq_bind, Option.bind_eq_some_iff,
        Option.some.injEq] at built
      rcases built with ⟨tree, first, following, restBuilt, rfl⟩
      exact ⟨payloadJson?_uniqueKeys first unique.1,
        payloadItems?_uniqueKeys restBuilt unique.2⟩

theorem payloadMembers?_uniqueKeys : ∀ {entries : List (PyKey × PyValue)}
    {members : List (String × Json)}, payloadMembers? entries = some members →
    PyValue.EntriesUniqueKeys entries → Json.MembersUniqueKeys members
  | [], _, built, _ => by cases built; trivial
  | (.string text, item) :: rest, members, built, unique => by
      simp only [payloadMembers?, Option.bind_eq_bind, Option.bind_eq_some_iff,
        Option.some.injEq] at built
      rcases built with ⟨name, _, tree, first, following, restBuilt, rfl⟩
      exact ⟨payloadJson?_uniqueKeys first unique.1,
        payloadMembers?_uniqueKeys restBuilt unique.2⟩
  | (.other _, _) :: _, _, built, _ => by cases built
end

end SupportGuard
