import SupportGuard.Rag.ChunkProvenance

/-! # Locators of a part of a chunk

The two kinds of locator in `rag/types.py`. A locator that resolves on a document gives a
locator for each part of its span, and that one resolves on the document to the part. -/

namespace SupportGuard

open Foundation Fallible
open SourceLocatorV1 (byteSpan)

/-- The `ValueError`s of a supporting span and of its locators. -/
inductive SpanError
  | chunk (error : ChunkError)
  | invalidByteRange
  | sourceHashMismatch
  | spanHashMismatch
  | locatorHashMismatch
  | parentSpanHashMismatch
  | invalidRelativeSpan
  | locatorRequired
  | emptyChunk
deriving DecidableEq

def SpanError.message : SpanError → String
  | chunk error => error.message
  | invalidByteRange => "SourceLocatorV2 requires a valid half-open byte range"
  | sourceHashMismatch => "source_hash_mismatch"
  | spanHashMismatch => "span_hash_mismatch"
  | locatorHashMismatch => "locator_hash_mismatch"
  | parentSpanHashMismatch => "parent_span_hash_mismatch"
  | invalidRelativeSpan => "invalid_relative_span"
  | locatorRequired => "supporting_span_requires_chunk_locator"
  | emptyChunk => "empty_chunk_cannot_support_claim"

/-- The hash of an identity, as `json.dumps` writes it. -/
def identityHash (identity : Json) : String :=
  Sha256.hexDigest (JsonText.utf8 (JsonText.encodeAscii identity))

/-- The checks of `subspan`. -/
def checkSubspan (spanHash : String) (parentSpan : List UInt8) (relativeStart relativeEnd : Nat) :
    Except SpanError Unit := do
  refuseWhen (Sha256.hexDigest parentSpan ≠ spanHash) .parentSpanHashMismatch
  refuseWhen (relativeEnd ≤ relativeStart ∨ parentSpan.length < relativeEnd) .invalidRelativeSpan

def SourceLocatorV1.subspan (locator : SourceLocatorV1) (parentSpan : List UInt8)
    (relativeStart relativeEnd : Nat) : Except SpanError SourceLocatorV1 := do
  checkSubspan locator.spanHash parentSpan relativeStart relativeEnd
  let byteStart := locator.byteStart + relativeStart
  let byteEnd := locator.byteStart + relativeEnd
  let spanHash := Sha256.hexDigest (byteSpan parentSpan relativeStart relativeEnd)
  let identity := SourceLocatorV1.identity locator.documentId locator.version locator.sourceHash
    byteStart byteEnd spanHash
  return { locator with byteStart, byteEnd, spanHash, locatorHash := identityHash identity }

structure SourceLocatorV2 where
  documentKey : String
  documentInternalId : String
  documentVersion : String
  sourceHash : String
  corpusSnapshotId : String
  indexVersion : String
  canonicalizationVersion : String
  sectionPath : String
  byteStart : Nat
  byteEnd : Nat
  spanHash : String
  chunkerFingerprint : String
  embeddingFingerprint : String
  locatorHash : String
deriving DecidableEq

namespace SourceLocatorV2

/-- What the hash of the locator is taken of: every field but the hash itself. -/
def identity (locator : SourceLocatorV2) : Json :=
  .object [
    ("locator_schema", .string "source-locator.v2"),
    ("document_key", .string locator.documentKey),
    ("document_internal_id", .string locator.documentInternalId),
    ("document_version", .string locator.documentVersion),
    ("source_hash", .string locator.sourceHash),
    ("corpus_snapshot_id", .string locator.corpusSnapshotId),
    ("index_version", .string locator.indexVersion),
    ("canonicalization_version", .string locator.canonicalizationVersion),
    ("section_path", .string locator.sectionPath),
    ("byte_start", .integer locator.byteStart),
    ("byte_end", .integer locator.byteEnd),
    ("span_hash", .string locator.spanHash),
    ("chunker_fingerprint", .string locator.chunkerFingerprint),
    ("embedding_fingerprint", .string locator.embeddingFingerprint)]

/-- `build`; the fields that it is given are those of a locator. -/
def build (given : SourceLocatorV2) (source : List UInt8) : Except SpanError SourceLocatorV2 := do
  refuseWhen (given.byteEnd ≤ given.byteStart ∨ source.length < given.byteEnd) .invalidByteRange
  let hashed := { given with
    sourceHash := Sha256.hexDigest source
    spanHash := Sha256.hexDigest (byteSpan source given.byteStart given.byteEnd) }
  return { hashed with locatorHash := identityHash hashed.identity }

def resolve (locator : SourceLocatorV2) (source : List UInt8) :
    Except SpanError (List UInt8) := do
  refuseWhen (Sha256.hexDigest source ≠ locator.sourceHash) .sourceHashMismatch
  let span := byteSpan source locator.byteStart locator.byteEnd
  refuseWhen (Sha256.hexDigest span ≠ locator.spanHash) .spanHashMismatch
  let expected ← build locator source
  refuseWhen (expected.locatorHash ≠ locator.locatorHash) .locatorHashMismatch
  return span

def subspan (locator : SourceLocatorV2) (parentSpan : List UInt8)
    (relativeStart relativeEnd : Nat) : Except SpanError SourceLocatorV2 := do
  checkSubspan locator.spanHash parentSpan relativeStart relativeEnd
  let moved := { locator with
    byteStart := locator.byteStart + relativeStart
    byteEnd := locator.byteStart + relativeEnd
    spanHash := Sha256.hexDigest (byteSpan parentSpan relativeStart relativeEnd) }
  return { moved with locatorHash := identityHash moved.identity }

end SourceLocatorV2

inductive SourceLocator
  | v1 (locator : SourceLocatorV1)
  | v2 (locator : SourceLocatorV2)
deriving DecidableEq

namespace SourceLocator

def byteStart : SourceLocator → Nat
  | v1 locator => locator.byteStart
  | v2 locator => locator.byteStart

def byteEnd : SourceLocator → Nat
  | v1 locator => locator.byteEnd
  | v2 locator => locator.byteEnd

def locatorHash : SourceLocator → String
  | v1 locator => locator.locatorHash
  | v2 locator => locator.locatorHash

def resolve (source : List UInt8) : SourceLocator → Except SpanError (List UInt8)
  | v1 locator => (locator.resolve source).mapError .chunk
  | v2 locator => locator.resolve source

def subspan (parentSpan : List UInt8) (relativeStart relativeEnd : Nat) :
    SourceLocator → Except SpanError SourceLocator
  | v1 locator => .v1 <$> locator.subspan parentSpan relativeStart relativeEnd
  | v2 locator => .v2 <$> locator.subspan parentSpan relativeStart relativeEnd

end SourceLocator

/-! ## What resolves -/

theorem length_byteSpan_le (source : List UInt8) (byteStart byteEnd : Nat) :
    (byteSpan source byteStart byteEnd).length ≤ byteEnd - byteStart := by
  rw [byteSpan, List.length_drop, List.length_take]
  omega

/-- A part of a span is the span of the moved ends. -/
theorem byteSpan_byteSpan {source : List UInt8} {byteStart byteEnd relativeStart relativeEnd : Nat}
    (within : byteStart + relativeEnd ≤ byteEnd) :
    byteSpan (byteSpan source byteStart byteEnd) relativeStart relativeEnd =
      byteSpan source (byteStart + relativeStart) (byteStart + relativeEnd) := by
  rw [byteSpan, byteSpan, byteSpan, List.take_drop, List.take_take, Nat.min_eq_left within,
    List.drop_drop]

theorem checkSubspan_eq_ok_iff {spanHash : String} {parentSpan : List UInt8}
    {relativeStart relativeEnd : Nat} :
    checkSubspan spanHash parentSpan relativeStart relativeEnd = .ok () ↔
      Sha256.hexDigest parentSpan = spanHash ∧ relativeStart < relativeEnd ∧
        relativeEnd ≤ parentSpan.length := by
  rw [checkSubspan, refuseWhen_bind_eq_ok_iff, refuseWhen_eq_ok_iff]
  simp only [ne_eq, not_not, not_or, not_le, not_lt]

theorem checkSubspan_eq_error {spanHash : String} {parentSpan : List UInt8}
    {relativeStart relativeEnd : Nat} (hashed : Sha256.hexDigest parentSpan = spanHash)
    (reversed : relativeEnd ≤ relativeStart) :
    checkSubspan spanHash parentSpan relativeStart relativeEnd = .error .invalidRelativeSpan := by
  rw [checkSubspan, refuseWhen_bind, if_neg (not_not.mpr hashed), refuseWhen,
    if_pos (.inl reversed)]

/-- What a locator of either kind says when it resolves: its hashes are those of the document, of
the part between its ends, and of its identity. -/
structure NamesPart (source : List UInt8) (sourceHash : String) (byteStart byteEnd : Nat)
    (spanHash : String) (identity : Json) (locatorHash : String) : Prop where
  source_eq : Sha256.hexDigest source = sourceHash
  span_eq : Sha256.hexDigest (byteSpan source byteStart byteEnd) = spanHash
  filled : byteStart < byteEnd
  within : byteEnd ≤ source.length
  locator_eq : identityHash identity = locatorHash

/-- Any identity will do for a part of the part, as long as its own hash goes with it. -/
theorem NamesPart.part {source : List UInt8} {sourceHash spanHash locatorHash : String}
    {byteStart byteEnd relativeStart relativeEnd : Nat} {identity : Json}
    (names : NamesPart source sourceHash byteStart byteEnd spanHash identity locatorHash)
    (filled : relativeStart < relativeEnd) (within : byteStart + relativeEnd ≤ byteEnd)
    (other : Json) :
    NamesPart source sourceHash (byteStart + relativeStart) (byteStart + relativeEnd)
      (Sha256.hexDigest (byteSpan (byteSpan source byteStart byteEnd) relativeStart relativeEnd))
      other (identityHash other) where
  source_eq := names.source_eq
  span_eq := by rw [byteSpan_byteSpan within]
  filled := by omega
  within := Nat.le_trans within names.within
  locator_eq := rfl

/-- Both kinds resolve alike: the document and its part have their hashes, and what is built again
has the hash of the locator. -/
theorem resolves_iff {Raise Locator : Type} {sourceOff spanOff locatorOff rangeOff : Raise}
    {source : List UInt8} {sourceHash spanHash locatorHash : String} {byteStart byteEnd : Nat}
    {built : Locator} {hashOf : Locator → String} {identity : Json} {span : List UInt8}
    (rehashed : Sha256.hexDigest source = sourceHash →
      Sha256.hexDigest (byteSpan source byteStart byteEnd) = spanHash →
        hashOf built = identityHash identity) :
    (do refuseWhen (Sha256.hexDigest source ≠ sourceHash) sourceOff
        refuseWhen (Sha256.hexDigest (byteSpan source byteStart byteEnd) ≠ spanHash) spanOff
        let expected ← (do
          refuseWhen (byteEnd ≤ byteStart ∨ source.length < byteEnd) rangeOff
          return built)
        refuseWhen (hashOf expected ≠ locatorHash) locatorOff
        return byteSpan source byteStart byteEnd) = Except.ok span ↔
      NamesPart source sourceHash byteStart byteEnd spanHash identity locatorHash ∧
        byteSpan source byteStart byteEnd = span := by
  rw [refuseWhen_bind_eq_ok_iff, refuseWhen_bind_eq_ok_iff, not_not, not_not, bind_eq_ok_iff]
  constructor
  · intro resolved
    obtain ⟨sameSource, sameSpan, expected, rebuilt, same⟩ := resolved
    rw [refuseWhen_bind_eq_ok_iff, not_or, not_le, not_lt] at rebuilt
    obtain ⟨range, expected_eq⟩ := rebuilt
    cases expected_eq
    rw [refuseWhen_bind_eq_ok_iff, not_not, rehashed sameSource sameSpan] at same
    exact ⟨⟨sameSource, sameSpan, range.1, range.2, same.1⟩, Except.ok.inj same.2⟩
  · intro named
    obtain ⟨names, span_eq⟩ := named
    apply And.intro names.source_eq
    apply And.intro names.span_eq
    apply Exists.intro built
    constructor
    · rw [refuseWhen_bind_eq_ok_iff, not_or, not_le, not_lt]
      exact ⟨⟨names.filled, names.within⟩, rfl⟩
    · rw [refuseWhen_bind_eq_ok_iff, not_not, rehashed names.source_eq names.span_eq]
      exact ⟨names.locator_eq, congrArg Except.ok span_eq⟩

theorem SourceLocatorV1.resolve_eq_ok_iff {locator : SourceLocatorV1} {source span : List UInt8} :
    locator.resolve source = .ok span ↔
      NamesPart source locator.sourceHash locator.byteStart locator.byteEnd locator.spanHash
          (SourceLocatorV1.identity locator.documentId locator.version locator.sourceHash
            locator.byteStart locator.byteEnd locator.spanHash) locator.locatorHash ∧
        byteSpan source locator.byteStart locator.byteEnd = span := by
  apply resolves_iff
  intro sameSource sameSpan
  rw [← sameSource, ← sameSpan]
  rfl

theorem SourceLocatorV2.resolve_eq_ok_iff {locator : SourceLocatorV2} {source span : List UInt8} :
    locator.resolve source = .ok span ↔
      NamesPart source locator.sourceHash locator.byteStart locator.byteEnd locator.spanHash
          locator.identity locator.locatorHash ∧
        byteSpan source locator.byteStart locator.byteEnd = span := by
  apply resolves_iff
  intro sameSource sameSpan
  rw [sameSource, sameSpan]

/-! ## Parts of a span -/

/-- The locator of a part resolves to the part and stays inside the whole. -/
structure SourceLocator.PartOf (part whole : SourceLocator) (source bytes : List UInt8) :
    Prop where
  resolves : part.resolve source = .ok bytes
  low : whole.byteStart ≤ part.byteStart
  high : part.byteEnd ≤ whole.byteEnd

variable {source parentSpan : List UInt8} {relativeStart relativeEnd : Nat}

theorem within_of_byteSpan {byteStart byteEnd : Nat}
    (parent_eq : byteSpan source byteStart byteEnd = parentSpan)
    (filled : relativeStart < relativeEnd) (within : relativeEnd ≤ parentSpan.length) :
    byteStart + relativeEnd ≤ byteEnd := by
  have bound := length_byteSpan_le source byteStart byteEnd
  rw [parent_eq] at bound
  omega

theorem SourceLocator.subspan_returns {locator : SourceLocator}
    (resolves : locator.resolve source = .ok parentSpan) (filled : relativeStart < relativeEnd)
    (within : relativeEnd ≤ parentSpan.length) :
    ∃ part, locator.subspan parentSpan relativeStart relativeEnd = .ok part ∧
      part.PartOf locator source (byteSpan parentSpan relativeStart relativeEnd) := by
  cases locator with
  | v1 locator =>
      obtain ⟨names, parent_eq⟩ :=
        SourceLocatorV1.resolve_eq_ok_iff.mp (mapError_eq_ok resolves)
      have inside := within_of_byteSpan parent_eq filled within
      have checked : checkSubspan locator.spanHash parentSpan relativeStart relativeEnd =
          .ok () := by
        rw [checkSubspan_eq_ok_iff, ← parent_eq]
        exact ⟨names.span_eq, filled, by rw [parent_eq]; exact within⟩
      rw [subspan, SourceLocatorV1.subspan, checked]
      apply Exists.intro _
      apply And.intro rfl
      constructor
      · have part := names.part filled inside (SourceLocatorV1.identity locator.documentId
          locator.version locator.sourceHash (locator.byteStart + relativeStart)
          (locator.byteStart + relativeEnd)
          (Sha256.hexDigest (byteSpan parentSpan relativeStart relativeEnd)))
        rw [parent_eq] at part
        rw [resolve, SourceLocatorV1.resolve_eq_ok_iff.mpr ⟨part, rfl⟩, ← parent_eq,
          byteSpan_byteSpan inside]
        rfl
      · exact Nat.le_add_right _ _
      · exact inside
  | v2 locator =>
      obtain ⟨names, parent_eq⟩ := SourceLocatorV2.resolve_eq_ok_iff.mp resolves
      have inside := within_of_byteSpan parent_eq filled within
      have checked : checkSubspan locator.spanHash parentSpan relativeStart relativeEnd =
          .ok () := by
        rw [checkSubspan_eq_ok_iff, ← parent_eq]
        exact ⟨names.span_eq, filled, by rw [parent_eq]; exact within⟩
      rw [subspan, SourceLocatorV2.subspan, checked]
      apply Exists.intro _
      apply And.intro rfl
      constructor
      · have part := names.part filled inside (SourceLocatorV2.identity { locator with
          byteStart := locator.byteStart + relativeStart
          byteEnd := locator.byteStart + relativeEnd
          spanHash := Sha256.hexDigest (byteSpan parentSpan relativeStart relativeEnd) })
        rw [parent_eq] at part
        rw [resolve, SourceLocatorV2.resolve_eq_ok_iff.mpr ⟨part, rfl⟩, ← parent_eq,
          byteSpan_byteSpan inside]
      · exact Nat.le_add_right _ _
      · exact inside

/-- Nothing is a part that has no byte. -/
theorem SourceLocator.subspan_refuses {locator : SourceLocator}
    (resolves : locator.resolve source = .ok parentSpan) (reversed : relativeEnd ≤ relativeStart) :
    locator.subspan parentSpan relativeStart relativeEnd = .error .invalidRelativeSpan := by
  cases locator with
  | v1 locator =>
      obtain ⟨names, parent_eq⟩ :=
        SourceLocatorV1.resolve_eq_ok_iff.mp (mapError_eq_ok resolves)
      have hashed : Sha256.hexDigest parentSpan = locator.spanHash := by
        rw [← parent_eq]
        exact names.span_eq
      rw [subspan, SourceLocatorV1.subspan, checkSubspan_eq_error hashed reversed]
      rfl
  | v2 locator =>
      obtain ⟨names, parent_eq⟩ := SourceLocatorV2.resolve_eq_ok_iff.mp resolves
      have hashed : Sha256.hexDigest parentSpan = locator.spanHash := by
        rw [← parent_eq]
        exact names.span_eq
      rw [subspan, SourceLocatorV2.subspan, checkSubspan_eq_error hashed reversed]
      rfl

end SupportGuard
