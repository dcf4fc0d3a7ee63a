import SupportGuard.Rag.Chunking

/-! # Where the chunks come from

A locator gives back the bytes of its chunk. Whether these bytes are in the section of the
chunk depends on the other places where the same text stands. -/

namespace SupportGuard

open Foundation Fallible

theorem utf8_append (left right : List Char) :
    JsonText.utf8 (left ++ right) = JsonText.utf8 left ++ JsonText.utf8 right :=
  List.flatMap_append

/-! ## Sections in the document -/

/-- The section is made of lines of the document that follow each other. -/
structure MarkdownSection.MadeOf (part : MarkdownSection) (markdown : List Char)
    (lines : List SourceLine) : Prop where
  stands : ∃ before after, markdown = before ++ part.source ++ after ∧
    part.byteStart = (JsonText.utf8 before).length
  source_eq : part.source = lines.flatMap SourceLine.source
  body_eq : part.body = stripSpace (List.intercalate ['\n'] (lines.map SourceLine.text))

/-- What the loop over the lines knows after reading this much of the document. -/
structure SectionState.Read (consumed : List Char) (state : SectionState) : Prop where
  offset_eq : state.offset = (JsonText.utf8 consumed).length
  body : ∃ before, consumed = before ++ state.body.flatMap SourceLine.source ∧
    state.bodyStart = (JsonText.utf8 before).length
  result : ∀ part ∈ state.result, ∃ lines, part.MadeOf consumed lines

theorem MarkdownSection.MadeOf.append {part : MarkdownSection} {markdown : List Char}
    {lines : List SourceLine} (made : part.MadeOf markdown lines) (more : List Char) :
    part.MadeOf (markdown ++ more) lines where
  stands := by
    obtain ⟨before, after, markdown_eq, start_eq⟩ := made.stands
    exact ⟨before, after ++ more, by simp [markdown_eq], start_eq⟩
  source_eq := made.source_eq
  body_eq := made.body_eq

namespace SectionState

theorem mem_flush_result {state : SectionState} {consumed : List Char}
    (read : state.Read consumed) {part : MarkdownSection} (member : part ∈ state.flush.result) :
    ∃ lines, part.MadeOf consumed lines := by
  simp only [flush] at member
  split at member
  · exact read.result part member
  · rw [List.mem_append, List.mem_singleton] at member
    obtain old | new := member
    · exact read.result part old
    · subst new
      obtain ⟨before, consumed_eq, start_eq⟩ := read.body
      exact ⟨state.body, ⟨before, [], by simp [consumed_eq], start_eq⟩, rfl, rfl⟩

theorem read_readLine {state : SectionState} {consumed : List Char}
    (read : state.Read consumed) (line : SourceLine) :
    (state.readLine line).Read (consumed ++ line.source) := by
  have offset_eq : state.offset + (JsonText.utf8 line.source).length =
      (JsonText.utf8 (consumed ++ line.source)).length := by
    rw [utf8_append, List.length_append, read.offset_eq]
  obtain ⟨before, consumed_eq, start_eq⟩ := read.body
  unfold readLine
  split
  · apply Read.mk offset_eq
    · exact ⟨before, by simp [consumed_eq], start_eq⟩
    · intro part member
      obtain ⟨lines, made⟩ := read.result part member
      exact ⟨lines, made.append _⟩
  · apply Read.mk offset_eq
    · exact ⟨consumed ++ line.source, by simp [flush], offset_eq⟩
    · intro part member
      obtain ⟨lines, made⟩ := mem_flush_result read member
      exact ⟨lines, made.append _⟩

theorem read_foldl {state : SectionState} {consumed : List Char} (read : state.Read consumed)
    (lines : List SourceLine) :
    (lines.foldl readLine state).Read (consumed ++ lines.flatMap SourceLine.source) := by
  induction lines generalizing state consumed with
  | nil => simpa using read
  | cons line lines induction =>
      rw [List.foldl_cons, List.flatMap_cons, ← List.append_assoc]
      exact induction (read_readLine read line)

end SectionState

theorem markdownSections_madeOf {markdown : List Char} {part : MarkdownSection}
    (member : part ∈ markdownSections markdown) : ∃ lines, part.MadeOf markdown lines := by
  have start : ({} : SectionState).Read [] := by
    apply SectionState.Read.mk rfl
    · exact ⟨[], rfl, rfl⟩
    · intro part member
      exact absurd member List.not_mem_nil
  have read := SectionState.read_foldl start (splitLines markdown)
  rw [splitLines_source, List.nil_append] at read
  exact SectionState.mem_flush_result read member

/-! ## Locators -/

variable {source : List UInt8}

theorem SourceLocatorV1.build_eq_ok_iff {documentId version : String} {byteStart byteEnd : Nat} :
    (∃ locator, build documentId version source byteStart byteEnd = .ok locator) ↔
      byteStart < byteEnd ∧ byteEnd ≤ source.length := by
  unfold build
  simp only [refuseWhen_bind_eq_ok_iff, not_or, not_le, not_lt, exists_and_left]
  exact and_iff_left ⟨_, rfl⟩

/-- A locator that was built on these bytes resolves to the span it was built for. -/
theorem SourceLocatorV1.resolve_of_build {documentId version : String} {byteStart byteEnd : Nat}
    {locator : SourceLocatorV1}
    (built : build documentId version source byteStart byteEnd = .ok locator) :
    locator.byteStart = byteStart ∧ locator.byteEnd = byteEnd ∧
      locator.resolve source = .ok (byteSpan source byteStart byteEnd) := by
  have rebuilt := built
  unfold build at built
  simp only [refuseWhen_bind_eq_ok_iff, pure, Except.pure, Except.ok.injEq] at built
  obtain ⟨_, locator_eq⟩ := built
  subst locator_eq
  simp [resolve, rebuilt, refuseWhen, bind, Except.bind, pure, Except.pure]

/-! ## Searching from the cursor -/

/-- The place that a search from the cursor finds, which starts over where nothing follows. -/
def FirstFrom (source content : List UInt8) (cursor start : Nat) : Prop :=
  OccursAt source content start ∧
    (cursor ≤ start ∧
        (∀ earlier < start, cursor ≤ earlier → ¬ OccursAt source content earlier) ∨
      (∀ later, cursor ≤ later → ¬ OccursAt source content later) ∧
        ∀ earlier < start, ¬ OccursAt source content earlier)

theorem locate_eq_some_iff {source content : List UInt8} {cursor start : Nat} :
    locate source content cursor = some start ↔ FirstFrom source content cursor start := by
  unfold locate FirstFrom
  rw [Option.or_eq_some_iff, findFrom_eq_some_iff, findFrom_eq_some_iff, findFrom_eq_none_iff]
  simp only [Nat.zero_le, true_and, true_imp_iff]
  grind

theorem FirstFrom.unique {source content : List UInt8} {cursor start other : Nat}
    (first : FirstFrom source content cursor start)
    (second : FirstFrom source content cursor other) : start = other := by
  rw [← locate_eq_some_iff] at first second
  exact Option.some.inj (first.symm.trans second)

/-! ## The texts of the chunks -/

/-- The texts that are cut from the sections, each with its section. -/
def sectionTexts (options : ChunkOptions) (title : List Char) :
    List MarkdownSection → Except ChunkError (List (MarkdownSection × List Char))
  | [] => return []
  | part :: parts => do
      let contents ← sectionContents options title part
      let later ← sectionTexts options title parts
      return contents.map (part, ·) ++ later

def ChunkState.addText (options : ChunkOptions) (metadata : DocumentMetadata)
    (source : List UInt8) (state : ChunkState) (text : MarkdownSection × List Char) :
    Except ChunkError ChunkState :=
  state.add options metadata source text.1 text.2

variable {metadata : DocumentMetadata} {options : ChunkOptions}

/-- Going through the sections is going through their texts. -/
theorem foldlM_addSection_eq_ok_iff {parts : List MarkdownSection} {state result : ChunkState} :
    parts.foldlM (ChunkState.addSection options metadata source) state = .ok result ↔
      ∃ texts, sectionTexts options metadata.title parts = .ok texts ∧
        texts.foldlM (ChunkState.addText options metadata source) state = .ok result := by
  induction parts generalizing state with
  | nil => simp [sectionTexts, pure, Except.pure]
  | cons part parts induction =>
      simp only [List.foldlM_cons, sectionTexts, ChunkState.addSection, bind_eq_ok_iff, induction]
      constructor
      · intro folded
        obtain ⟨middle, ⟨contents, cut, added⟩, later, laterCut, laterAdded⟩ := folded
        refine ⟨_, ⟨contents, cut, later, laterCut, rfl⟩, ?_⟩
        rw [List.foldlM_append, bind_eq_ok_iff]
        exact ⟨middle, by rw [List.foldlM_map]; exact added, laterAdded⟩
      · intro folded
        obtain ⟨texts, ⟨contents, cut, later, laterCut, texts_eq⟩, added⟩ := folded
        cases texts_eq
        rw [List.foldlM_append, bind_eq_ok_iff] at added
        obtain ⟨middle, added, laterAdded⟩ := added
        rw [List.foldlM_map] at added
        exact ⟨middle, ⟨contents, cut, added⟩, later, laterCut, laterAdded⟩

theorem chunkMarkdown_eq_ok_iff {markdown : List Char} {chunks : List ParsedChunk} :
    chunkMarkdown options metadata markdown = .ok chunks ↔
      ∃ texts, sectionTexts options metadata.title (markdownSections markdown) = .ok texts ∧
        ∃ state : ChunkState, texts.foldlM
            (ChunkState.addText options metadata (JsonText.utf8 markdown)) {} = .ok state ∧
          state.chunks = chunks := by
  unfold chunkMarkdown
  simp only [bind_eq_ok_iff, foldlM_addSection_eq_ok_iff, pure, Except.pure, Except.ok.injEq]
  constructor
  · intro chunked
    obtain ⟨state, ⟨texts, cut, added⟩, chunks_eq⟩ := chunked
    exact ⟨texts, cut, state, added, chunks_eq⟩
  · intro chunked
    obtain ⟨texts, cut, state, added, chunks_eq⟩ := chunked
    exact ⟨state, ⟨texts, cut, added⟩, chunks_eq⟩

/-! ## Provenance -/

/-- The chunk is of this section, its locator resolves to its text, and the bytes that the
locator names are in the body of the section. -/
structure ParsedChunk.ComesFrom (chunk : ParsedChunk) (source : List UInt8)
    (text : MarkdownSection × List Char) : Prop where
  path : chunk.sectionPath = text.1.path
  content : chunk.content = text.2
  resolves : chunk.sourceLocator.resolve source = .ok (JsonText.utf8 chunk.content)
  starts : text.1.byteStart ≤ chunk.sourceLocator.byteStart
  ends : chunk.sourceLocator.byteEnd ≤ text.1.byteEnd

/-- Each text, searched from the place after the start of the one before it, is met in its own
section before it is met anywhere else. -/
inductive MetInSection (source : List UInt8) : Nat → List (MarkdownSection × List Char) → Prop
  | nil (cursor : Nat) : MetInSection source cursor []
  | cons {cursor start : Nat} {part : MarkdownSection} {content : List Char}
      {later : List (MarkdownSection × List Char)}
      (first : FirstFrom source (JsonText.utf8 content) cursor start)
      (starts : part.byteStart ≤ start)
      (ends : start + (JsonText.utf8 content).length ≤ part.byteEnd)
      (rest : MetInSection source (start + 1) later) :
      MetInSection source cursor ((part, content) :: later)

/-- What one turn of the loop adds. -/
theorem ChunkState.addText_eq_ok {state result : ChunkState} {text : MarkdownSection × List Char}
    (added : state.addText options metadata source text = .ok result) :
    ∃ start chunk, FirstFrom source (JsonText.utf8 text.2) state.locatorCursor start ∧
      result = { locatorCursor := start + 1, chunks := state.chunks ++ [chunk] } ∧
      chunk.sectionPath = text.1.path ∧ chunk.content = text.2 ∧
      chunk.sourceLocator.resolve source = .ok (JsonText.utf8 text.2) ∧
      chunk.sourceLocator.byteStart = start ∧
      chunk.sourceLocator.byteEnd = start + (JsonText.utf8 text.2).length := by
  simp only [addText, add] at added
  cases located : locate source (JsonText.utf8 text.2) state.locatorCursor with
  | none =>
      rw [located] at added
      cases added
  | some start =>
      rw [located] at added
      simp only [bind_eq_ok_iff] at added
      obtain ⟨locator, built, result_eq⟩ := added
      cases result_eq
      have first := locate_eq_some_iff.1 located
      obtain ⟨start_eq, end_eq, resolved⟩ := SourceLocatorV1.resolve_of_build built
      have span : SourceLocatorV1.byteSpan source start
          (start + (JsonText.utf8 text.2).length) = JsonText.utf8 text.2 := by
        rw [SourceLocatorV1.byteSpan, List.drop_take, Nat.add_sub_cancel_left]
        exact first.1.span
      rw [span] at resolved
      exact ⟨start, _, first, rfl, rfl, rfl, resolved, start_eq, end_eq⟩

/-- The chunks that the loop adds come from the sections of their texts exactly when each text
is met there first. The induction is on the texts that are left. -/
theorem foldlM_addText_comesFrom {texts : List (MarkdownSection × List Char)}
    {state result : ChunkState}
    (added : texts.foldlM (ChunkState.addText options metadata source) state = .ok result) :
    ∃ chunks, result.chunks = state.chunks ++ chunks ∧
      (List.Forall₂ (fun text chunk => chunk.ComesFrom source text) texts chunks ↔
        MetInSection source state.locatorCursor texts) := by
  induction texts generalizing state with
  | nil =>
      cases added
      exact ⟨[], by simp, by simp [MetInSection.nil]⟩
  | cons text texts induction =>
      rw [List.foldlM_cons, bind_eq_ok_iff] at added
      obtain ⟨middle, turned, added⟩ := added
      obtain ⟨start, chunk, first, middle_eq, path, content, resolves, start_eq, end_eq⟩ :=
        ChunkState.addText_eq_ok turned
      obtain ⟨chunks, result_eq, met_iff⟩ := induction added
      subst middle_eq
      refine ⟨chunk :: chunks, by simp [result_eq], ?_⟩
      rw [List.forall₂_cons, met_iff]
      constructor
      · intro ⟨comes, later⟩
        have starts := comes.starts
        have ends := comes.ends
        rw [start_eq] at starts
        rw [end_eq] at ends
        exact .cons first starts ends later
      · intro met
        cases met with
        | cons other starts ends later =>
            have same := first.unique other
            subst same
            refine ⟨⟨path, content, ?_, ?_, ?_⟩, later⟩
            · rw [resolves, content]
            · rwa [start_eq]
            · rwa [end_eq]

/-- Every chunk comes from the section it names. -/
def ChunksComeFromSections (options : ChunkOptions) (metadata : DocumentMetadata)
    (markdown : List Char) (chunks : List ParsedChunk) : Prop :=
  ∃ texts, sectionTexts options metadata.title (markdownSections markdown) = .ok texts ∧
    List.Forall₂ (fun text chunk => chunk.ComesFrom (JsonText.utf8 markdown) text) texts chunks

/-- Every text of the document that becomes a chunk is met in its own section first. -/
def TextsMetInSections (options : ChunkOptions) (metadata : DocumentMetadata)
    (markdown : List Char) : Prop :=
  ∃ texts, sectionTexts options metadata.title (markdownSections markdown) = .ok texts ∧
    MetInSection (JsonText.utf8 markdown) 0 texts

theorem chunkMarkdown_comesFrom_iff {options : ChunkOptions} {metadata : DocumentMetadata}
    {markdown : List Char} {chunks : List ParsedChunk}
    (chunked : chunkMarkdown options metadata markdown = .ok chunks) :
    ChunksComeFromSections options metadata markdown chunks ↔
      TextsMetInSections options metadata markdown := by
  rw [chunkMarkdown_eq_ok_iff] at chunked
  obtain ⟨texts, cut, state, added, chunks_eq⟩ := chunked
  obtain ⟨placed, placed_eq, met_iff⟩ := foldlM_addText_comesFrom added
  have same : placed = chunks := by
    rw [← chunks_eq, placed_eq, List.nil_append]
  subst same
  unfold ChunksComeFromSections TextsMetInSections
  simp only [cut, Except.ok.injEq, exists_eq_left', met_iff]

def guideMetadata : DocumentMetadata where
  documentId := "guide"
  title := "Guide".toList
  version := "1"

def chunksOf (markdown : List Char) : List ParsedChunk :=
  (chunkMarkdown {} guideMetadata markdown).toOption.getD []

theorem chunkMarkdown_chunksOf {markdown : List Char}
    (returns : (chunkMarkdown {} guideMetadata markdown).toOption.isSome = true) :
    chunkMarkdown {} guideMetadata markdown = .ok (chunksOf markdown) := by
  obtain ⟨chunks, found⟩ := Option.isSome_iff_exists.mp returns
  rw [chunksOf, found, toOption_eq_some found, Option.getD_some]

/-- The text of the second section ends like the one of the first. -/
def distinctMarkdown : List Char := "# A\nfoo\n# B\nx foo\n".toList

theorem chunkMarkdown_distinctMarkdown : chunkMarkdown {} guideMetadata distinctMarkdown =
    .ok (chunksOf distinctMarkdown) :=
  chunkMarkdown_chunksOf (by decide +kernel)

theorem distinctMarkdown_met : TextsMetInSections {} guideMetadata distinctMarkdown := by
  have cut : sectionTexts {} guideMetadata.title (markdownSections distinctMarkdown) = .ok
      [({ path := ['A'], body := "foo".toList, source := "foo\n".toList, byteStart := 4 },
        "foo".toList),
       ({ path := ['B'], body := "x foo".toList, source := "x foo\n".toList, byteStart := 12 },
        "x foo".toList)] := by
    decide +kernel
  apply Exists.intro _
  apply And.intro cut
  have first : locate (JsonText.utf8 distinctMarkdown) (JsonText.utf8 "foo".toList) 0 =
      some 4 := by
    decide +kernel
  have second : locate (JsonText.utf8 distinctMarkdown) (JsonText.utf8 "x foo".toList) 5 =
      some 12 := by
    decide +kernel
  apply MetInSection.cons (locate_eq_some_iff.mp first)
  · decide +kernel
  · decide +kernel
  apply MetInSection.cons (locate_eq_some_iff.mp second)
  · decide +kernel
  · decide +kernel
  exact .nil _

theorem chunkMarkdown_comesFrom_iff_distinct :
    chunkMarkdown {} guideMetadata distinctMarkdown = .ok (chunksOf distinctMarkdown) ∧
      ChunksComeFromSections {} guideMetadata distinctMarkdown (chunksOf distinctMarkdown) :=
  ⟨chunkMarkdown_distinctMarkdown,
    (chunkMarkdown_comesFrom_iff chunkMarkdown_distinctMarkdown).mpr distinctMarkdown_met⟩

/-- The text of the second section also ends the first one. -/
def repeatedMarkdown : List Char := "# A\nx foo\n# B\nfoo\n".toList

theorem chunkMarkdown_repeatedMarkdown : chunkMarkdown {} guideMetadata repeatedMarkdown =
    .ok (chunksOf repeatedMarkdown) :=
  chunkMarkdown_chunksOf (by decide +kernel)

/-- The search from the start of the first chunk finds the second one in the first section. -/
theorem repeated_text_leaves_section :
    ¬ ∀ (options : ChunkOptions) (metadata : DocumentMetadata) (markdown : List Char)
      (chunks : List ParsedChunk), '\r' ∉ markdown →
      chunkMarkdown options metadata markdown = .ok chunks →
      ChunksComeFromSections options metadata markdown chunks := by
  intro claim
  obtain ⟨texts, cut, comes⟩ := claim {} guideMetadata repeatedMarkdown _ (by decide)
    chunkMarkdown_repeatedMarkdown
  have second : (chunksOf repeatedMarkdown).map (·.sourceLocator.byteStart) = [4, 6] := by
    decide +kernel
  have cutAt : (sectionTexts {} guideMetadata.title (markdownSections repeatedMarkdown)).map
      (·.map (·.1.byteStart)) = .ok [4, 14] := by
    decide +kernel
  rw [cut] at cutAt
  have sections : texts.map (·.1.byteStart) = [4, 14] := Except.ok.inj cutAt
  have starts : List.Forall₂ (· ≤ ·) (texts.map (·.1.byteStart))
      ((chunksOf repeatedMarkdown).map (·.sourceLocator.byteStart)) := by
    rw [List.forall₂_map_left_iff, List.forall₂_map_right_iff]
    exact comes.imp fun _ _ chunk => chunk.starts
  rw [second, sections] at starts
  simp at starts

end SupportGuard
