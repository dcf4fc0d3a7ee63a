import SupportGuard.Foundation.Fallible
import SupportGuard.Foundation.Occurrence
import SupportGuard.Foundation.Sha256
import SupportGuard.Foundation.TextLines

/-! # Chunking a document

`rag/chunking.py` cuts a markdown document into chunks that fit the embedding model, and
`SourceLocatorV1` of `rag/types.py` says where each chunk stands in the bytes of the
document. Texts are lists of characters. The fields that a chunk copies from the metadata of
its document, other than its identity, its title and its version, are left out. -/

namespace SupportGuard

open Foundation Fallible

/-- The `ValueError`s of the chunker and of its locators. -/
inductive ChunkError
  | metadataTooLong
  | notASourceSpan
  | invalidByteRange
  | sourceHashMismatch
  | spanHashMismatch
  | locatorHashMismatch
deriving DecidableEq

def ChunkError.message : ChunkError → String
  | metadataTooLong => "chunk metadata alone exceeds embedding token limit"
  | notASourceSpan => "chunk content is not an exact canonical source byte span"
  | invalidByteRange => "SourceLocatorV1 requires a valid half-open byte range"
  | sourceHashMismatch => "source_hash_mismatch"
  | spanHashMismatch => "span_hash_mismatch"
  | locatorHashMismatch => "locator_hash_mismatch"

/-! ## Locators -/

structure SourceLocatorV1 where
  documentId : String
  version : String
  sourceHash : String
  byteStart : Nat
  byteEnd : Nat
  spanHash : String
  locatorHash : String
deriving DecidableEq

namespace SourceLocatorV1

def byteSpan (source : List UInt8) (byteStart byteEnd : Nat) : List UInt8 :=
  (source.take byteEnd).drop byteStart

def identity (documentId version sourceHash : String) (byteStart byteEnd : Nat)
    (spanHash : String) : Json :=
  .object [
    ("locator_schema", .string "source-locator.v1"),
    ("document_id", .string documentId),
    ("version", .string version),
    ("source_hash", .string sourceHash),
    ("byte_start", .integer byteStart),
    ("byte_end", .integer byteEnd),
    ("span_hash", .string spanHash)]

def build (documentId version : String) (source : List UInt8) (byteStart byteEnd : Nat) :
    Except ChunkError SourceLocatorV1 := do
  refuseWhen (byteEnd ≤ byteStart ∨ source.length < byteEnd) .invalidByteRange
  let sourceHash := Sha256.hexDigest source
  let spanHash := Sha256.hexDigest (byteSpan source byteStart byteEnd)
  let identity := identity documentId version sourceHash byteStart byteEnd spanHash
  return {
    documentId, version, sourceHash, byteStart, byteEnd, spanHash
    locatorHash := Sha256.hexDigest (JsonText.utf8 (JsonText.encodeAscii identity)) }

def resolve (locator : SourceLocatorV1) (source : List UInt8) :
    Except ChunkError (List UInt8) := do
  refuseWhen (Sha256.hexDigest source ≠ locator.sourceHash) .sourceHashMismatch
  let span := byteSpan source locator.byteStart locator.byteEnd
  refuseWhen (Sha256.hexDigest span ≠ locator.spanHash) .spanHashMismatch
  let expected ←
    build locator.documentId locator.version source locator.byteStart locator.byteEnd
  refuseWhen (expected.locatorHash ≠ locator.locatorHash) .locatorHashMismatch
  return span

end SourceLocatorV1

/-! ## Tokens -/

/-- `[A-Za-z0-9_./:-]`. -/
def isWordCharacter (character : Char) : Bool :=
  character.isAlphanum || character ∈ ['_', '.', '/', ':', '-']

/-- The tokens from here on. A run of word characters is one token, and so is every other
character that is no space. -/
def tokenCountFrom : Bool → List Char → Nat
  | _, [] => 0
  | inWord, character :: rest =>
      if isWordCharacter character then
        (if inWord then 0 else 1) + tokenCountFrom true rest
      else if isTextSpace character then tokenCountFrom false rest
      else 1 + tokenCountFrom false rest

def tokenCount (text : List Char) : Nat :=
  tokenCountFrom false text

def indexedText (title sectionPath content : List Char) : List Char :=
  title ++ '\n' :: sectionPath ++ '\n' :: content

def embeddingText (title sectionPath content : List Char) : List Char :=
  "passage: ".toList ++ indexedText title sectionPath content

/-! ## Pieces under the embedding limit -/

/-- The binary search for the longest start of a text that fits. -/
def searchFit (fits : Nat → Bool) : Nat → Nat → Nat → Nat → Nat
  | 0, _, _, fit => fit
  | fuel + 1, low, high, fit =>
      if low ≤ high then
        let middle := (low + high) / 2
        if fits middle then searchFit fits fuel (middle + 1) high middle
        else searchFit fits fuel low (middle - 1) fit
      else fit

/-- The last index of the character, or -1. -/
def rfind (character : Char) (text : List Char) : Int :=
  match text.reverse.idxOf? character with
  | some fromEnd => (text.length : Int) - 1 - fromEnd
  | none => -1

/-- How much of the text goes into the next piece: up to a line, a sentence or a word where one
ends in the second half of what fits. -/
def takeLength (remaining : List Char) (fit : Nat) : Nat :=
  let head := remaining.take fit
  let boundary := max (max (rfind '\n' head) (rfind '。' head)) (rfind ' ' head)
  if (fit / 2 : Nat) ≤ boundary then (boundary + 1).toNat else fit

/-- The loop of `_bounded_pieces`; every turn takes at least one character. -/
def cutPieces (fits : List Char → Bool) : Nat → List Char →
    Except ChunkError (List (List Char))
  | 0, _ => return []
  | fuel + 1, remaining =>
      if remaining = [] then return []
      else do
        let fit :=
          searchFit (fun length => fits (remaining.take length)) remaining.length 1
            remaining.length 0
        refuseWhen (fit = 0) .metadataTooLong
        let taken := takeLength remaining fit
        let pieces ← cutPieces fits fuel ((remaining.drop taken).dropWhile isTextSpace)
        return stripSpace (remaining.take taken) :: pieces

/-- `_bounded_pieces`. -/
def boundedPieces (content pathPrefix : List Char) (counter : List Char → Nat)
    (maximum : Nat) : Except ChunkError (List (List Char)) :=
  let fits := fun text => decide (counter (pathPrefix ++ text) ≤ maximum)
  if fits content then return [content]
  else do
    let pieces ← cutPieces fits content.length content
    return pieces.filter (· ≠ [])

/-! ## Sections -/

/-- The level and the text of a heading: `^(#{1,6})\s+(.+?)\s*$`. Where only spaces follow the
marks, the last of them is the text if another one is before it. -/
def heading? (line : List Char) : Option (Nat × List Char) :=
  let marks := line.takeWhile (· = '#')
  let rest := line.drop marks.length
  let spaces := rest.takeWhile isTextSpace
  let text := stripSpace rest
  if marks.length = 0 ∨ 6 < marks.length ∨ spaces = [] then none
  else if text ≠ [] then some (marks.length, text)
  else if spaces.length = 1 then none
  else some (marks.length, spaces.drop (spaces.length - 1))

/-- `_Section`, with the lines of its body as they stand in the document and the offset of the
first of them. -/
structure MarkdownSection where
  path : List Char
  body : List Char
  source : List Char
  byteStart : Nat
deriving DecidableEq

def MarkdownSection.byteEnd (part : MarkdownSection) : Nat :=
  part.byteStart + (JsonText.utf8 part.source).length

structure SectionState where
  headings : List (List Char) := []
  body : List SourceLine := []
  bodyStart : Nat := 0
  offset : Nat := 0
  result : List MarkdownSection := []

namespace SectionState

def path (state : SectionState) : List Char :=
  let joined := List.intercalate " > ".toList state.headings
  if joined = [] then "正文".toList else joined

def flush (state : SectionState) : SectionState :=
  let content := stripSpace (List.intercalate ['\n'] (state.body.map SourceLine.text))
  let result :=
    if content = [] then state.result
    else
      state.result ++ [{
        path := state.path
        body := content
        source := state.body.flatMap SourceLine.source
        byteStart := state.bodyStart }]
  { state with result, body := [] }

def readLine (state : SectionState) (line : SourceLine) : SectionState :=
  let offset := state.offset + (JsonText.utf8 line.source).length
  match heading? line.text with
  | none => { state with body := state.body ++ [line], offset }
  | some (level, text) =>
      { state.flush with
        headings := state.headings.take (level - 1) ++ [text]
        bodyStart := offset
        offset }

end SectionState

/-- `_sections`. -/
def markdownSections (markdown : List Char) : List MarkdownSection :=
  ((splitLines markdown).foldl SectionState.readLine {}).flush.result

/-! ## Windows -/

/-- The length of a match of `\n\s*\n` at the head of the text; 0 where there is none. -/
def blankLineLength : List Char → Nat
  | '\n' :: rest =>
      let spaces := rest.takeWhile isTextSpace
      let indent := spaces.reverse.takeWhile (· ≠ '\n')
      if '\n' ∈ spaces then 1 + (spaces.length - indent.length) else 0
  | _ => 0

def consHead (character : Char) : List (List Char) → List (List Char)
  | [] => [[character]]
  | first :: rest => (character :: first) :: rest

/-- `re.split` at the blank lines; the first argument counts what is left of a match. -/
def splitBlankLines : Nat → List Char → List (List Char)
  | _, [] => [[]]
  | skip + 1, _ :: rest => splitBlankLines skip rest
  | 0, character :: rest =>
      match blankLineLength (character :: rest) with
      | 0 => consHead character (splitBlankLines 0 rest)
      | length + 1 => [] :: splitBlankLines length rest

def paragraphs (text : List Char) : List (List Char) :=
  ((splitBlankLines 0 text).map stripSpace).filter (· ≠ [])

def joinParagraphs (parts : List (List Char)) : List Char :=
  List.intercalate ['\n', '\n'] parts

/-- The paragraphs that the next window repeats, read from the last one back. -/
def overlapTail (overlap : Nat) : List (List Char) → List (List Char) → Nat →
    List (List Char) × Nat
  | [], tail, size => (tail, size)
  | prior :: earlier, tail, size =>
      if tail ≠ [] ∧ overlap < size + tokenCount prior then (tail, size)
      else overlapTail overlap earlier (prior :: tail) (size + tokenCount prior)

structure WindowState where
  windows : List (List Char) := []
  current : List (List Char) := []
  currentTokens : Nat := 0

namespace WindowState

def close (overlap : Nat) (state : WindowState) : WindowState :=
  let tail := overlapTail overlap state.current.reverse [] 0
  { windows := state.windows ++ [joinParagraphs state.current]
    current := tail.1
    currentTokens := tail.2 }

def add (target overlap maximum : Nat) (state : WindowState) (paragraph : List Char) :
    WindowState :=
  let size := tokenCount paragraph
  let state :=
    if state.current ≠ [] ∧ target < state.currentTokens + size then state.close overlap
    else state
  if maximum < size then { windows := state.windows ++ [paragraph] }
  else
    { state with
      current := state.current ++ [paragraph]
      currentTokens := state.currentTokens + size }

end WindowState

/-- `_windows`. -/
def textWindows (text : List Char) (target overlap maximum : Nat) : List (List Char) :=
  let state := (paragraphs text).foldl (WindowState.add target overlap maximum) {}
  if state.current ≠ [] then state.windows ++ [joinParagraphs state.current]
  else state.windows

/-! ## Chunks -/

structure DocumentMetadata where
  documentId : String
  title : List Char
  version : String

structure ParsedChunk where
  chunkId : String
  documentId : String
  title : List Char
  sectionPath : List Char
  sequence : Nat
  content : List Char
  tokenCount : Nat
  contentHash : String
  version : String
  sourceLocator : SourceLocatorV1
deriving DecidableEq

structure ChunkOptions where
  targetTokens : Nat := 325
  overlapTokens : Nat := 50
  maxTokens : Nat := 450
  tokenCounter : List Char → Nat := tokenCount

def embeddingLimit : Nat := 512

/-- The text before the content of every chunk of a section. -/
def sectionPrefix (title path : List Char) : List Char :=
  embeddingText title path []

def sectionContents (options : ChunkOptions) (title : List Char) (part : MarkdownSection) :
    Except ChunkError (List (List Char)) := do
  let windows :=
    textWindows part.body options.targetTokens options.overlapTokens options.maxTokens
  let pieces ← windows.mapM fun window =>
    boundedPieces window (sectionPrefix title part.path) options.tokenCounter embeddingLimit
  return pieces.flatten

/-- The first place at or after the cursor, or else the first of all. -/
def locate (source content : List UInt8) (cursor : Nat) : Option Nat :=
  (findFrom source content cursor).or (findFrom source content 0)

def chunkId (documentId : String) (sequence : Nat) (digest : String) : String :=
  let number := (toString sequence).toList
  documentId ++ ":c" ++ String.ofList (List.replicate (3 - number.length) '0' ++ number) ++
    ":" ++ String.ofList (digest.toList.take 8)

structure ChunkState where
  locatorCursor : Nat := 0
  chunks : List ParsedChunk := []

def ChunkState.add (options : ChunkOptions) (metadata : DocumentMetadata)
    (source : List UInt8) (part : MarkdownSection) (state : ChunkState)
    (content : List Char) : Except ChunkError ChunkState := do
  let contentBytes := JsonText.utf8 content
  match locate source contentBytes state.locatorCursor with
  | none => throw .notASourceSpan
  | some byteStart =>
      let digest := Sha256.hexDigest contentBytes
      let sequence := state.chunks.length
      let sourceLocator ←
        SourceLocatorV1.build metadata.documentId metadata.version source byteStart
          (byteStart + contentBytes.length)
      return {
        locatorCursor := byteStart + 1
        chunks := state.chunks ++ [{
          chunkId := chunkId metadata.documentId sequence digest
          documentId := metadata.documentId
          title := metadata.title
          sectionPath := part.path
          sequence
          content
          tokenCount := options.tokenCounter (embeddingText metadata.title part.path content)
          contentHash := digest
          version := metadata.version
          sourceLocator }] }

def ChunkState.addSection (options : ChunkOptions) (metadata : DocumentMetadata)
    (source : List UInt8) (state : ChunkState) (part : MarkdownSection) :
    Except ChunkError ChunkState := do
  let contents ← sectionContents options metadata.title part
  contents.foldlM (ChunkState.add options metadata source part) state

def chunkMarkdown (options : ChunkOptions) (metadata : DocumentMetadata)
    (markdown : List Char) : Except ChunkError (List ParsedChunk) := do
  let state ←
    (markdownSections markdown).foldlM
      (ChunkState.addSection options metadata (JsonText.utf8 markdown)) {}
  return state.chunks

end SupportGuard
