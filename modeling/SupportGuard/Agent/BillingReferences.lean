import SupportGuard.Contracts.AdmissionTotality
import SupportGuard.Foundation.RegexGuards

/-! # References to bills

`_billing_ids` of `agent/current_facts.py` beside the references that the admission of a refund
reads. The two patterns differ in what may stand before a reference, and in nothing else. -/

namespace SupportGuard

open Foundation Fallible Regex

namespace CurrentFacts

def billingId : Regex :=
  .compile [
    r"(?<![A-Za-z0-9_.:-])bill[-_][a-z0-9]",
    r"(?:[a-z0-9._:-]{0,61}[a-z0-9])?(?![A-Za-z0-9_-])"]

def billingIdRead : Reading billingId :=
  ⟨_, compile_reads (by
    repeat first | apply reads_cons String.toList_ofList | exact reads_nil)⟩

end CurrentFacts

section Readers

variable (tables : TextTables)

/-- `_billing_ids`. -/
def billingIds (text : List Char) : List (List Char) :=
  firstByKey tables.casefold
    ((CurrentFacts.billingId.finditer tables.isWord text 0 text.length).map fun found =>
      textSlice text found.start found.stop)

/-- The references that `_matches` and `_unique_matches` find in one message. -/
def admissionBillingIds (message : AcceptedMessage) :
    Except AdmissionError (List (List Char)) := do
  let found ← fieldMatches tables "billing_record_id" AdmissionPattern.billingId [0] none [message]
  return (uniqueMatches tables true found).map Prod.fst

/-- A bill that one of the two knows is known to the other. -/
def SameBillingIds (message : AcceptedMessage) : Prop :=
  ∃ admitted, admissionBillingIds tables message = .ok admitted ∧
    ∀ id, id ∈ admitted.map tables.casefold ↔
      id ∈ (billingIds tables message.content).map tables.casefold

end Readers

/-! ## The two patterns -/

namespace BillingReference

/-- What the pattern of the admission asks for before a reference. -/
def admissionGuard : Regex :=
  .wordBoundary

/-- What the pattern of `current_facts.py` asks for before a reference. -/
def currentGuard : Regex :=
  .notBehind [.range 'A' 'Z', .range 'a' 'z', .range '0' '9', .character '_', .character '.',
    .character ':', .character '-']

def body : Regex :=
  .compile [
    r"bill[-_][a-z0-9](?:[a-z0-9._:-]{0,61}[a-z0-9])?(?![A-Za-z0-9_-])"]

def bodyRead : Reading body :=
  ⟨_, compile_reads (by
    repeat first | apply reads_cons String.toList_ofList | exact reads_nil)⟩

theorem patterns_guarded : AdmissionPattern.billingId = .seq admissionGuard body ∧
    CurrentFacts.billingId = .seq currentGuard body := by
  rw [AdmissionPattern.billingIdRead.same, CurrentFacts.billingIdRead.same, bodyRead.same]
  decide +kernel

theorem admission_eq : AdmissionPattern.billingId = .seq admissionGuard body :=
  patterns_guarded.1

theorem current_eq : CurrentFacts.billingId = .seq currentGuard body :=
  patterns_guarded.2

/-- A reference that at least one of the two recognises. -/
def either : Regex :=
  .seq (.alt admissionGuard currentGuard) body

end BillingReference

open BillingReference

/-- Every reference that one of the two recognises begins at a word boundary, and no letter or
digit of ASCII and none of `_`, `.`, `:` and `-` stands before it. -/
def ReferencesStandApart (tables : TextTables) (text : List Char) : Prop :=
  ∀ found ∈ either.finditer tables.isWord text 0 text.length,
    beginsAt tables.isWord admissionGuard text found.start = true ∧
      beginsAt tables.isWord currentGuard text found.start = true

section Agreement

variable {tables : TextTables}

/-- The two find the same references at the same places if and only if the references stand
apart. -/
theorem referencesStandApart_iff (text : List Char) :
    AdmissionPattern.billingId.finditer tables.isWord text 0 text.length =
        CurrentFacts.billingId.finditer tables.isWord text 0 text.length ↔
      ReferencesStandApart tables text := by
  have guards : (Regex.seq admissionGuard body).finditer tables.isWord text 0 text.length =
      (Regex.seq currentGuard body).finditer tables.isWord text 0 text.length ↔
        ∀ found ∈ either.finditer tables.isWord text 0 text.length,
          beginsAt tables.isWord admissionGuard (text.take text.length) found.start = true ∧
            beginsAt tables.isWord currentGuard (text.take text.length) found.start = true :=
    finditer_guards_iff rfl rfl
  rw [List.take_length] at guards
  rw [admission_eq, current_eq]
  exact guards

/-! ## What is read from the matches -/

theorem mem_map_firstByKey {Entry Key : Type} [DecidableEq Key] {key : Entry → Key} {value : Key}
    {entries : List Entry} :
    value ∈ (firstByKey key entries).map key ↔ value ∈ entries.map key := by
  rw [List.mem_map, List.mem_map]
  exact firstByKey_key_iff key

theorem fieldMatch_whole {fieldName : String} {message : AcceptedMessage} {found : RegexMatch}
    {entry : FieldMatch} (matched : fieldMatch fieldName [0] message found = .ok entry) :
    entry.1 = textSlice message.content found.start found.stop := by
  have whole : [0].findSome? found.span = some (found.start, found.stop) := rfl
  rw [fieldMatch, whole] at matched
  simp only [bind_eq_ok_iff] at matched
  obtain ⟨source, _, entry_eq⟩ := matched
  cases entry_eq
  rfl

theorem map_eq_of_mapM {Source Entry Value Error : Type} {compute : Source → Except Error Entry}
    {sources : List Source} {entries : List Entry} (mapped : sources.mapM compute = .ok entries)
    {read : Entry → Value} {given : Source → Value}
    (each : ∀ source entry, compute source = .ok entry → read entry = given source) :
    entries.map read = sources.map given := by
  have pairs := mapM_forall₂ mapped
  clear mapped
  induction pairs with
  | nil => rfl
  | cons first _ induction =>
      rw [List.map_cons, List.map_cons, each _ _ first, induction]

theorem admissionBillingIds_eq (tables : TextTables) (message : AcceptedMessage) :
    ∃ admitted, admissionBillingIds tables message = .ok admitted ∧
      ∀ id, id ∈ admitted.map tables.casefold ↔
        id ∈ ((AdmissionPattern.billingId.finditer tables.isWord message.content 0
          message.content.length).map fun found =>
            textSlice message.content found.start found.stop).map tables.casefold := by
  obtain ⟨found, matched, _⟩ :=
    fieldMatches_return tables "billing_record_id" none [message] billingId_readsField
  have texts : found.map Prod.fst =
      (AdmissionPattern.billingId.finditer tables.isWord message.content 0
        message.content.length).map fun found =>
          textSlice message.content found.start found.stop := by
    simp only [fieldMatches, spansOf, List.mapM_cons, List.mapM_nil, bind_eq_ok_iff,
      List.flatMap_cons, List.flatMap_nil, List.append_nil] at matched
    obtain ⟨all, ⟨entries, mapped, rest, none, all_eq⟩, found_eq⟩ := matched
    cases none
    cases all_eq
    cases found_eq
    rw [List.flatten_cons, List.flatten_nil, List.append_nil]
    exact map_eq_of_mapM mapped fun _ _ => fieldMatch_whole
  have read : admissionBillingIds tables message =
      .ok ((uniqueMatches tables true found).map Prod.fst) := by
    rw [admissionBillingIds, matched]
    rfl
  apply Exists.intro _
  apply And.intro read
  intro id
  rw [List.map_map, ← texts, List.map_map]
  exact mem_map_firstByKey

/-- Where the references stand apart, the two know the same bills. -/
theorem billingIds_agree {message : AcceptedMessage}
    (apart : ReferencesStandApart tables message.content) : SameBillingIds tables message := by
  obtain ⟨admitted, read, same⟩ := admissionBillingIds_eq tables message
  apply Exists.intro admitted
  apply And.intro read
  intro id
  rw [same, (referencesStandApart_iff message.content).mpr apart, billingIds]
  exact mem_map_firstByKey.symm

end Agreement

/-! ## A reference behind a colon -/

def billMessage (text : List Char) : AcceptedMessage where
  messageId := ['m']
  content := text
  contentHash := contentHash text

theorem billingIds_agree_apart : SameBillingIds plainTables
    (billMessage "see bill_1".toList) := by
  apply billingIds_agree
  rw [ReferencesStandApart, either, bodyRead.same]
  decide +kernel

/-- The admission finds the bill that follows a colon; the other does not. -/
theorem billingIds_differ_behind_colon : ¬∀ message, SameBillingIds plainTables message := by
  intro same
  have text : "no:bill_1".toList = ['n', 'o', ':', 'b', 'i', 'l', 'l', '_', '1'] := rfl
  have both : billingIds plainTables "no:bill_1".toList = [] ∧
      AdmissionPattern.billingId.finditer plainTables.isWord "no:bill_1".toList 0 9 =
        [{ start := 3, stop := 9 }] := by
    rw [billingIds, CurrentFacts.billingIdRead.same, AdmissionPattern.billingIdRead.same, text]
    decide +kernel
  obtain ⟨unread, found⟩ := both
  obtain ⟨admitted, read, known⟩ := same (billMessage "no:bill_1".toList)
  obtain ⟨other, readAgain, ids⟩ :=
    admissionBillingIds_eq plainTables (billMessage "no:bill_1".toList)
  cases read.symm.trans readAgain
  have admits : ['b', 'i', 'l', 'l', '_', '1'] ∈ admitted.map plainTables.casefold := by
    apply (ids _).mpr
    have content : (billMessage "no:bill_1".toList).content = "no:bill_1".toList := rfl
    have length : "no:bill_1".toList.length = 9 := rfl
    rw [content, length, found, text]
    decide
  have knows := (known _).mp admits
  rw [billMessage, unread] at knows
  exact absurd knows List.not_mem_nil

end SupportGuard
