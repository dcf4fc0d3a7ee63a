import SupportGuard.Contracts.AdmissionGrounds
import SupportGuard.Foundation.RegexDerivation
import SupportGuard.Rag.SourceLocators
import Mathlib

/-! # Supporting spans

`rag/spans.py` chooses the sentence of a chunk that speaks most of a query, takes the sentences
after it that belong to it, and cites what is left of them without the white space around it.
The window of a sentence that is nothing but white space may be blank, and then there is nothing
to cite. -/

namespace SupportGuard

open Foundation Fallible

namespace SupportingSpans

/-! ## Terms -/

def finishRun (current : List Char) : List (List Char) :=
  if current = [] then [] else [current]

/-- The longest runs of the characters. -/
def runsFrom (holds : Char → Bool) : List Char → List Char → List (List Char)
  | current, [] => finishRun current
  | current, character :: rest =>
      if holds character then runsFrom holds (current ++ [character]) rest
      else finishRun current ++ runsFrom holds [] rest

def runs (holds : Char → Bool) (text : List Char) : List (List Char) :=
  runsFrom holds [] text

/-- `_LATIN_TERM.findall`. -/
def latinTerms (text : List Char) : List (List Char) :=
  (runs isWordCharacter text).filter fun run => 2 ≤ run.length

/-- `[\u4e00-\u9fff]`. -/
def isCjk (character : Char) : Bool :=
  0x4E00 ≤ character.toNat && character.toNat ≤ 0x9FFF

/-- The terms of two to four characters of a Chinese run. -/
def cjkTerms (run : List Char) : List (List Char) :=
  (List.range' 2 (min 4 run.length - 1)).flatMap fun width =>
    (List.range (run.length - width + 1)).map fun index => textSlice run index (index + width)

/-- `lexical_query_terms`; a Latin term is ASCII. -/
def lexicalQueryTerms (query : List Char) : List (List Char) :=
  ((latinTerms query).map (List.map Char.toLower) ++ (runs isCjk query).flatMap cjkTerms).dedup

/-- `[_./:-]`. -/
def isIdentifierSeparator (character : Char) : Bool :=
  character ∈ ['_', '.', '/', ':', '-']

/-- `_HTTP_STATUS.fullmatch` of a Latin term. -/
def isHttpStatus : List Char → Bool
  | [first, second, third] =>
      '1' ≤ first && first ≤ '5' && second.isDigit && third.isDigit
  | _ => false

def anchorsOfTerm (term : List Char) : List (List Char) :=
  (if isHttpStatus term then [term] else []) ++
    if term.any isIdentifierSeparator then
      let components := runs (fun character => !isIdentifierSeparator character) term
      term :: components.filter fun component => 4 ≤ component.length
    else []

/-- `_query_anchor_terms`. -/
def queryAnchorTerms (query : List Char) : List (List Char) :=
  ((latinTerms query).flatMap fun term => anchorsOfTerm (term.map Char.toLower)).dedup

/-! ## Sentences -/

inductive SentenceMode
  | between
  | sentence (start : Nat)
  | line (start : Nat)

def isTerminator (character : Char) : Bool :=
  character ∈ ['。', '！', '？', '!', '?']

/-- `_BOUNDARY.finditer`. A sentence ends with its first terminator; one that begins with a
terminator is the rest of its line. -/
def sentencesFrom : SentenceMode → Nat → List Char → List Span
  | .between, _, [] => []
  | .sentence start, position, [] => [(start, position)]
  | .line start, position, [] => [(start, position)]
  | .between, position, character :: rest =>
      if character = '\n' then sentencesFrom .between (position + 1) rest
      else if isTerminator character then sentencesFrom (.line position) (position + 1) rest
      else sentencesFrom (.sentence position) (position + 1) rest
  | .sentence start, position, character :: rest =>
      if character = '\n' then (start, position) :: sentencesFrom .between (position + 1) rest
      else if isTerminator character then
        (start, position + 1) :: sentencesFrom .between (position + 1) rest
      else sentencesFrom (.sentence start) (position + 1) rest
  | .line start, position, character :: rest =>
      if character = '\n' then (start, position) :: sentencesFrom .between (position + 1) rest
      else sentencesFrom (.line start) (position + 1) rest

def sentences (content : List Char) : List Span :=
  sentencesFrom .between 0 content

def spanText (content : List Char) (span : Span) : List Char :=
  textSlice content span.1 span.2

/-- `_is_structured_line`. -/
def isStructuredLine (value : List Char) : Bool :=
  let stripped := value.dropWhile isTextSpace
  let numbered := stripped.dropWhile fun character => (decimalDigit? character).isSome
  [['|'], ['-', ' '], ['*', ' '], ['>', ' '], "```".toList].any (List.isPrefixOf · stripped) ||
    (numbered.length < stripped.length &&
      match numbered with
      | mark :: space :: _ => (mark = '.' || mark = ')') && isTextSpace space
      | _ => false)

/-! ## Scores -/

section Scores

variable (tables : TextTables)

/-- `_match_score`. -/
def matchScore (value : List Char) (terms : List (List Char)) (documentFrequency : List Char → Nat)
    (sentenceCount : Nat) : Nat :=
  let folded := tables.casefold value
  (terms.map fun term =>
    if term <:+: folded then
      let specificity := sentenceCount + 1 - documentFrequency term
      let exactTokenBonus := if 2 ≤ term.length && term.all isWordCharacter then 4 else 1
      term.length ^ 2 * specificity * exactTokenBonus
    else 0).sum

def latinItems : List ClassItem :=
  [.range 'A' 'Z', .range 'a' 'z', .range '0' '9']

/-- The anchor with no letter or digit of ASCII at either side. -/
def anchorPattern (anchor : List Char) : Regex :=
  .seq (.notBehind latinItems)
    (anchor.foldr (fun character rest => .seq (.oneOf [.character character]) rest)
      (.notAhead (.oneOf latinItems)))

/-- `_anchor_score`. -/
def anchorScore (value : List Char) (anchors : List (List Char)) : Nat :=
  let folded := tables.casefold value
  (anchors.map fun anchor =>
    if (anchorPattern anchor).found tables.isWord folded then anchor.length ^ 2 else 0).sum

/-- The scores of each sentence, the one for the anchors first. -/
def sentenceScores (content query : List Char) : List (Nat × Nat) :=
  let terms := lexicalQueryTerms query
  let anchors := queryAnchorTerms query
  let texts := (sentences content).map (spanText content)
  let documentFrequency := fun term =>
    texts.countP fun text => decide (term <:+: tables.casefold text)
  texts.map fun text =>
    (anchorScore tables text anchors, matchScore tables text terms documentFrequency texts.length)

/-- The place of the sentence with the greatest scores, the first of them; none where no sentence
has any. -/
def chosenSentence (content query : List Char) : Option Nat :=
  let scores := sentenceScores tables content query
  if scores.any fun score => 0 < score.1 || 0 < score.2 then
    (List.range scores.length).argmax fun index => toLex (scores.getD index (0, 0))
  else none

end Scores

/-! ## The span -/

/-- Two line feeds in a row. -/
def hasBlankLine (text : List Char) : Bool :=
  ['\n', '\n'] <:+: text

/-- The loop over the sentences that follow. -/
def extendWindow (content : List Char) (start : Nat) : Nat → List Span → Nat
  | stop, [] => stop
  | stop, candidate :: later =>
      if hasBlankLine (textSlice content stop candidate.1) ||
          isStructuredLine (spanText content candidate) then stop
      else if 800 < candidate.2 - start then stop
      else extendWindow content start candidate.2 later

/-- `_bounded_context_window`: the chosen sentence with up to two of those after it. -/
def boundedContextWindow (content : List Char) (chosen : Span) (later : List Span) : Span :=
  if isStructuredLine (spanText content chosen) then chosen
  else (chosen.1, extendWindow content chosen.1 chosen.2 (later.take 2))

/-- A chunk with its place in the document. -/
structure LocatedChunk where
  content : List Char
  sourceLocator : Option SourceLocator

structure SupportingSpan where
  text : List Char
  locator : SourceLocator
  materialClaimEligible : Bool
  reasonCode : String

/-- The text of a window without the white space around it, and the bytes of the content that it
takes. -/
def citeWindow (content : List Char) (window : Span) : List Char × Nat × Nat :=
  let raw := spanText content window
  let text := stripSpace raw
  let relativeCharacterStart := window.1 + raw.length - (raw.dropWhile isTextSpace).length
  let relativeStart := (JsonText.utf8 (content.take relativeCharacterStart)).length
  (text, relativeStart, relativeStart + (JsonText.utf8 text).length)

def selectSupportingSpan (tables : TextTables) (chunk : LocatedChunk) (query : List Char) :
    Except SpanError SupportingSpan :=
  match chunk.sourceLocator with
  | none => throw .locatorRequired
  | some locator =>
      let chosen := chosenSentence tables chunk.content query
      -- Without a match the first sentence is cited, if there is one.
      match (sentences chunk.content).drop (chosen.getD 0) with
      | [] => throw .emptyChunk
      | sentence :: later => do
          let window := boundedContextWindow chunk.content sentence later
          let (text, relativeStart, relativeEnd) := citeWindow chunk.content window
          let part ← locator.subspan (JsonText.utf8 chunk.content) relativeStart relativeEnd
          return {
            text
            locator := part
            materialClaimEligible := chosen.isSome
            reasonCode := if chosen.isSome then "lexical_support_span"
              else "background_only_no_unique_support" }

end SupportingSpans

end SupportGuard
