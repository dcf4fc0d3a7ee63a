import Mathlib.Data.List.Flatten
import SupportGuard.Foundation.Covering
import SupportGuard.Rag.BoundedPieces

/-! # What the chunks cover

A window that is full is closed, and the next one starts with paragraphs of it. A paragraph
over the maximum has a window for itself, and drops the paragraphs that wait only when they
have been closed before: the maximum is not below the target. -/

namespace SupportGuard

open Foundation Fallible

/-! ## Windows of paragraphs -/

/-- The windows are runs of the paragraphs, in order, and each paragraph is in one of them. -/
structure WindowsOf (parts windows : List (List Char)) (spans : List (Nat × Nat)) : Prop where
  runs : windows = spans.map fun span => joinParagraphs (slice parts span)
  bounds : ∀ span ∈ spans, span.1 < span.2 ∧ span.2 ≤ parts.length
  ordered : spans.Pairwise fun earlier later => earlier.1 ≤ later.1 ∧ earlier.2 < later.2
  covers : ∀ index, index < parts.length → ∃ span ∈ spans, span.1 ≤ index ∧ index < span.2

/-- The windows of a body keep its paragraphs. -/
def KeepsParagraphs (options : ChunkOptions) (body : List Char) : Prop :=
  ∃ spans, WindowsOf (paragraphs body)
    (textWindows body options.targetTokens options.overlapTokens options.maxTokens) spans

theorem overlapTail_eq (overlap : Nat) (backwards : List (List Char)) :
    ∀ (tail : List (List Char)) (size : Nat), ∃ taken,
      (overlapTail overlap backwards tail size).1 = (backwards.take taken).reverse ++ tail := by
  induction backwards with
  | nil => exact fun tail size => ⟨0, rfl⟩
  | cons prior earlier induction =>
      intro tail size
      rw [overlapTail]
      split
      · exact ⟨0, rfl⟩
      · obtain ⟨taken, tail_eq⟩ := induction (prior :: tail) (size + tokenCount prior)
        exact ⟨taken + 1, by simp [tail_eq]⟩

/-- What a window repeats is the end of the one before. -/
theorem overlapTail_drop (overlap : Nat) (current : List (List Char)) :
    ∃ dropped, (overlapTail overlap current.reverse [] 0).1 = current.drop dropped := by
  obtain ⟨taken, tail_eq⟩ := overlapTail_eq overlap current.reverse [] 0
  rw [List.append_nil, List.reverse_take, List.reverse_reverse] at tail_eq
  exact ⟨_, tail_eq⟩

namespace WindowState

/-- The windows are runs that cover a bound, and what waits goes from an index up to the bound to
what has been read. -/
structure Holds (parts : List (List Char)) (state : WindowState) (read first covered : Nat)
    (spans : List (Nat × Nat)) : Prop where
  windows : state.windows = spans.map fun span => joinParagraphs (slice parts span)
  current : state.current = slice parts (first, read)
  covering : ∃ start, Covering start covered spans ∧ start ≤ first
  joins : first ≤ covered
  within : covered ≤ read

/-- Between two turns nothing waits, or the last of what waits has not been covered. -/
def Between (parts : List (List Char)) (state : WindowState) (read : Nat) : Prop :=
  ∃ first covered spans, state.Holds parts read first covered spans ∧
    (first = read ∧ covered = read ∨ covered < read)

variable {parts : List (List Char)} {state : WindowState} {read first covered : Nat}
  {spans : List (Nat × Nat)}

/-- A run that goes further is one more window. -/
theorem Holds.next (holds : state.Holds parts read first covered spans) (span : Nat × Nat)
    (after : first ≤ span.1) (joins : span.1 ≤ covered) (further : covered < span.2) :
    state.windows ++ [joinParagraphs (slice parts span)] =
        (spans ++ [span]).map (fun span => joinParagraphs (slice parts span)) ∧
      Covering span.1 span.2 (spans ++ [span]) := by
  obtain ⟨start, covering, start_le⟩ := holds.covering
  constructor
  · rw [holds.windows, List.map_append]
    rfl
  · exact .more covering (Nat.le_trans start_le after) joins further

theorem Holds.close (holds : state.Holds parts read first covered spans)
    (further : covered < read) (overlap : Nat) :
    ∃ later, (state.close overlap).Holds parts read later read (spans ++ [(first, read)]) := by
  obtain ⟨windows, covering⟩ := holds.next (first, read) (Nat.le_refl first) holds.joins
    further
  obtain ⟨dropped, tail_eq⟩ := overlapTail_drop overlap state.current
  have tail : (state.close overlap).current = slice parts (first + dropped, read) := by
    rw [← drop_slice, ← holds.current]
    exact tail_eq
  by_cases inside : first + dropped ≤ read
  · apply Exists.intro (first + dropped)
    constructor
    · rw [← windows, ← holds.current]
      rfl
    · exact tail
    · exact ⟨first, covering, Nat.le_add_right _ _⟩
    · exact inside
    · exact Nat.le_refl read
  · apply Exists.intro read
    constructor
    · rw [← windows, ← holds.current]
      rfl
    · rw [tail, slice_self, slice_eq_nil]
      exact Nat.le_of_lt (Nat.not_le.mp inside)
    · exact ⟨first, covering, Nat.le_trans holds.joins (Nat.le_of_lt further)⟩
    · exact Nat.le_refl read
    · exact Nat.le_refl read

/-- What `add` does once a full window has been closed. -/
def place (maximum : Nat) (state : WindowState) (paragraph : List Char) : WindowState :=
  if maximum < tokenCount paragraph then { windows := state.windows ++ [paragraph] }
  else
    { state with
      current := state.current ++ [paragraph]
      currentTokens := state.currentTokens + tokenCount paragraph }

theorem add_eq (target overlap maximum : Nat) (state : WindowState) (paragraph : List Char) :
    state.add target overlap maximum paragraph =
      place maximum (if state.current ≠ [] ∧ target < state.currentTokens + tokenCount paragraph
        then state.close overlap else state) paragraph :=
  rfl

variable {before rest : List (List Char)} {paragraph : List Char} {maximum : Nat}

theorem Holds.place
    (holds : state.Holds (before ++ paragraph :: rest) before.length first covered spans)
    (whole : maximum < tokenCount paragraph → covered = before.length) :
    (state.place maximum paragraph).Between (before ++ paragraph :: rest) (before.length + 1) := by
  have inside : first ≤ before.length := Nat.le_trans holds.joins holds.within
  by_cases long : maximum < tokenCount paragraph
  · have covered_eq := whole long
    have alone : joinParagraphs (slice (before ++ paragraph :: rest)
        (before.length, before.length + 1)) = paragraph := by
      rw [← slice_concat (Nat.le_refl _), slice_self]
      simp [joinParagraphs]
    obtain ⟨windows, covering⟩ := holds.next (before.length, before.length + 1) inside
      (Nat.le_of_eq covered_eq.symm) (by simp only; omega)
    rw [WindowState.place, if_pos long]
    apply Exists.intro (before.length + 1)
    apply Exists.intro (before.length + 1)
    apply Exists.intro (spans ++ [(before.length, before.length + 1)])
    constructor
    · constructor
      · rw [← windows, alone]
      · exact (slice_self _ _).symm
      · exact ⟨_, covering, Nat.le_succ _⟩
      · exact Nat.le_refl _
      · exact Nat.le_refl _
    · exact .inl ⟨rfl, rfl⟩
  · rw [WindowState.place, if_neg long]
    apply Exists.intro first
    apply Exists.intro covered
    apply Exists.intro spans
    constructor
    · constructor
      · exact holds.windows
      · rw [← slice_concat inside, ← holds.current]
      · exact holds.covering
      · exact holds.joins
      · exact Nat.le_succ_of_le holds.within
    · exact .inr (Nat.lt_succ_of_le holds.within)

/-- A turn keeps all that has been read: what waits in front of a paragraph over the maximum has
been closed. -/
theorem Between.add {target overlap : Nat} (wide : target ≤ maximum)
    (between : state.Between (before ++ paragraph :: rest) before.length) :
    (state.add target overlap maximum paragraph).Between (before ++ paragraph :: rest)
      (before.length + 1) := by
  obtain ⟨first, covered, spans, holds, open_or⟩ := between
  rw [add_eq]
  split
  · next full =>
    have further : covered < before.length := by
      rcases open_or with empty | further
      · apply absurd _ full.1
        rw [holds.current, empty.1]
        exact slice_self _ _
      · exact further
    obtain ⟨later, closed⟩ := holds.close further overlap
    exact closed.place fun _ => rfl
  · next room =>
    apply holds.place
    intro long
    rcases open_or with empty | further
    · exact empty.2
    · exfalso
      apply room
      constructor
      · rw [holds.current]
        apply slice_ne_nil
        · simp
        · exact Nat.lt_of_le_of_lt holds.joins further
      · omega

theorem Between.foldl {target : Nat} (wide : target ≤ maximum) (overlap : Nat) :
    ∀ {rest before : List (List Char)} {state : WindowState},
      state.Between (before ++ rest) before.length →
        (rest.foldl (WindowState.add target overlap maximum) state).Between (before ++ rest)
          (before ++ rest).length
  | [], before, state, between => by
      rw [List.append_nil] at between ⊢
      exact between
  | paragraph :: rest, before, state, between => by
      have moved : (state.add target overlap maximum paragraph).Between
          ((before ++ [paragraph]) ++ rest) (before ++ [paragraph]).length := by
        rw [List.append_assoc, List.length_append]
        exact between.add wide
      have later := Between.foldl wide overlap moved
      rw [List.append_assoc] at later
      exact later

end WindowState

theorem windowsOf_covering {parts : List (List Char)} {start : Nat} {spans : List (Nat × Nat)}
    (cover : Covering start parts.length spans) :
    WindowsOf parts (spans.map fun span => joinParagraphs (slice parts span)) spans where
  runs := rfl
  bounds := fun span member => ⟨(cover.bounds span member).1, (cover.bounds span member).2.2⟩
  ordered := cover.ordered
  covers := fun _ inside => cover.reaches inside

/-- The windows of a body, with the runs that cover its paragraphs. -/
theorem textWindows_covering {target maximum : Nat} (wide : target ≤ maximum)
    (overlap : Nat) (body : List Char) :
    ∃ start spans, Covering start (paragraphs body).length spans ∧
      textWindows body target overlap maximum =
        spans.map fun span => joinParagraphs (slice (paragraphs body) span) := by
  have start : ({} : WindowState).Between ([] ++ paragraphs body) ([] : List (List Char)).length :=
    ⟨0, 0, [], ⟨rfl, (slice_self _ _).symm, ⟨0, .none, Nat.le_refl 0⟩, Nat.le_refl 0,
      Nat.le_refl 0⟩, .inl ⟨rfl, rfl⟩⟩
  obtain ⟨first, covered, spans, holds, open_or⟩ :=
    WindowState.Between.foldl wide overlap start
  rw [List.nil_append] at holds open_or
  rw [textWindows]
  rcases open_or with closed | further
  · have nothing : ((paragraphs body).foldl (WindowState.add target overlap maximum) {}).current =
        [] := by
      rw [holds.current, closed.1]
      exact slice_self _ _
    obtain ⟨last, covering, _⟩ := holds.covering
    rw [if_neg fun some => some nothing, holds.windows]
    rw [closed.2] at covering
    exact ⟨last, spans, covering, rfl⟩
  · have waiting : ((paragraphs body).foldl (WindowState.add target overlap maximum) {}).current ≠
        [] := by
      rw [holds.current]
      exact slice_ne_nil _ (Nat.le_refl _) (Nat.lt_of_le_of_lt holds.joins further)
    obtain ⟨windows, covering⟩ := holds.next (first, (paragraphs body).length)
      (Nat.le_refl first) holds.joins further
    rw [if_pos waiting, holds.current, windows]
    exact ⟨first, _, covering, rfl⟩

theorem textWindows_keep {options : ChunkOptions}
    (wide : options.targetTokens ≤ options.maxTokens) (body : List Char) :
    KeepsParagraphs options body := by
  obtain ⟨start, spans, covering, windows_eq⟩ :=
    textWindows_covering wide options.overlapTokens body
  rw [KeepsParagraphs, windows_eq]
  exact ⟨spans, windowsOf_covering covering⟩

/-! ## The characters of a body -/

theorem withoutSpaces_flatten (texts : List (List Char)) :
    withoutSpaces texts.flatten = texts.flatMap withoutSpaces := by
  induction texts with
  | nil => rfl
  | cons text texts induction =>
      rw [List.flatten_cons, withoutSpaces_append, induction, List.flatMap_cons]

theorem withoutSpaces_joinParagraphs (parts : List (List Char)) :
    withoutSpaces (joinParagraphs parts) = parts.flatMap withoutSpaces := by
  induction parts with
  | nil => rfl
  | cons first rest induction =>
      cases rest with
      | nil => simp [joinParagraphs]
      | cons second rest =>
          have gap : withoutSpaces ['\n', '\n'] = [] := by decide
          rw [joinParagraphs, List.intercalate_cons_cons, withoutSpaces_append,
            withoutSpaces_append, gap, List.append_nil, List.flatMap_cons]
          exact congrArg (withoutSpaces first ++ ·) induction

/-- What `\n\s*\n` takes is white space. -/
theorem blankLineLength_spaces (text : List Char) :
    withoutSpaces (text.take (blankLineLength text)) = [] := by
  rw [withoutSpaces, List.filter_eq_nil_iff]
  intro character member
  unfold blankLineLength at member
  split at member
  · next rest =>
    simp only at member
    split at member
    · rw [Nat.add_comm, List.take_succ_cons, List.mem_cons] at member
      rcases member with feed | later
      · rw [feed]
        decide
      · have within : rest.take ((rest.takeWhile isTextSpace).length -
            ((rest.takeWhile isTextSpace).reverse.takeWhile (· ≠ '\n')).length) <+:
              rest.takeWhile isTextSpace := by
          apply List.prefix_of_prefix_length_le (List.take_prefix _ _)
            (List.takeWhile_prefix isTextSpace)
          have bound := List.length_take_le ((rest.takeWhile isTextSpace).length -
            ((rest.takeWhile isTextSpace).reverse.takeWhile (· ≠ '\n')).length) rest
          omega
        have space := List.mem_takeWhile_imp (within.subset later)
        simp [space]
    · exact absurd member List.not_mem_nil
  · exact absurd member List.not_mem_nil

theorem flatten_consHead (character : Char) (parts : List (List Char)) :
    (consHead character parts).flatten = character :: parts.flatten := by
  cases parts <;> rfl

theorem withoutSpaces_splitBlankLines (text : List Char) :
    ∀ skip, withoutSpaces (splitBlankLines skip text).flatten =
      withoutSpaces (text.drop skip) := by
  induction text with
  | nil =>
      intro skip
      cases skip <;> rfl
  | cons character text induction =>
      intro skip
      cases skip with
      | succ skip => exact induction skip
      | zero =>
          rw [splitBlankLines]
          split
          · rw [flatten_consHead, ← List.singleton_append, withoutSpaces_append, induction 0,
              ← withoutSpaces_append]
            rfl
          · next length blank =>
            have spaces := blankLineLength_spaces (character :: text)
            rw [blank] at spaces
            have parted := congrArg withoutSpaces
              (List.take_append_drop (length + 1) (character :: text))
            rw [withoutSpaces_append, spaces, List.nil_append] at parted
            rw [List.flatten_cons, List.nil_append, induction length]
            exact parted

theorem withoutSpaces_paragraphs (text : List Char) :
    (paragraphs text).flatMap withoutSpaces = withoutSpaces text := by
  have stripped : ∀ parts : List (List Char),
      ((parts.map stripSpace).filter (· ≠ [])).flatMap withoutSpaces =
        parts.flatMap withoutSpaces := by
    intro parts
    induction parts with
    | nil => rfl
    | cons part parts induction =>
        rw [List.map_cons, List.filter_cons, List.flatMap_cons, ← induction,
          ← withoutSpaces_stripSpace part]
        split
        · rw [List.flatMap_cons]
        · next blank =>
          have empty : stripSpace part = [] := by simpa using blank
          rw [empty]
          rfl
  rw [paragraphs, stripped, ← withoutSpaces_flatten, withoutSpaces_splitBlankLines]
  rfl

/-- The windows have the characters of the body, in order. -/
theorem withoutSpaces_textWindows {target maximum : Nat} (wide : target ≤ maximum)
    (overlap : Nat) (body : List Char) :
    (withoutSpaces body).Sublist
      ((textWindows body target overlap maximum).flatMap withoutSpaces) := by
  obtain ⟨start, spans, covering, windows_eq⟩ :=
    textWindows_covering wide overlap body
  have runs := (covering.sublist (paragraphs body)).flatMap withoutSpaces
  rw [List.take_length, withoutSpaces_paragraphs, List.flatMap_assoc] at runs
  rw [windows_eq, List.flatMap_map]
  simp only [withoutSpaces_joinParagraphs]
  exact runs

/-! ## The chunks of a document -/

/-- The chunks of a section are of its path, and have the characters of its body in order. -/
structure CoversBody (part : MarkdownSection) (chunks : List ParsedChunk) : Prop where
  path : ∀ chunk ∈ chunks, chunk.sectionPath = part.path
  characters : (withoutSpaces part.body).Sublist
    (withoutSpaces (chunks.flatMap ParsedChunk.content))

/-- The chunks are those of the sections, one section after the other. -/
def CoversSections (markdown : List Char) (chunks : List ParsedChunk) : Prop :=
  ∃ groups, chunks = groups.flatten ∧
    List.Forall₂ CoversBody (markdownSections markdown) groups

variable {options : ChunkOptions} {metadata : DocumentMetadata}

theorem sectionContents_covers (wide : options.targetTokens ≤ options.maxTokens)
    {title : List Char} {part : MarkdownSection} {contents : List (List Char)}
    (cut : sectionContents options.counted title part = .ok contents) :
    (withoutSpaces part.body).Sublist (withoutSpaces contents.flatten) := by
  simp only [sectionContents, bind_eq_ok_iff] at cut
  obtain ⟨pieces, mapped, contents_eq⟩ := cut
  cases contents_eq
  have windows := withoutSpaces_textWindows wide options.overlapTokens part.body
  have filled : ∀ window ∈ textWindows part.body options.targetTokens options.overlapTokens
      options.maxTokens, window ≠ [] := fun window member => textWindows_filled member
  have each := mapM_forall₂ mapped
  have same : ∀ {texts : List (List Char)} {pieces : List (List (List Char))},
      (∀ window ∈ texts, window ≠ []) →
      List.Forall₂ (fun window cut => boundedPieces window (sectionPrefix title part.path)
        tokenCount embeddingLimit = .ok cut) texts pieces →
      withoutSpaces pieces.flatten.flatten = texts.flatMap withoutSpaces := by
    intro texts pieces some each
    induction each with
    | nil => rfl
    | @cons window cut texts pieces one _ induction =>
        rw [sectionPrefix_line] at one
        have whole := (boundedPieces_pieces (.inl (some window List.mem_cons_self)) one).whole
        rw [List.flatten_cons, List.flatten_append, withoutSpaces_append, whole,
          induction fun other member => some other (List.mem_cons_of_mem _ member),
          List.flatMap_cons]
  rw [same filled each]
  exact windows

/-- The chunks that a section adds. -/
theorem addSection_covers (wide : options.targetTokens ≤ options.maxTokens)
    {source : List UInt8} {part : MarkdownSection} {state result : ChunkState}
    (added : ChunkState.addSection options.counted metadata source state part = .ok result) :
    ∃ group, result.chunks = state.chunks ++ group ∧ CoversBody part group := by
  simp only [ChunkState.addSection, bind_eq_ok_iff] at added
  obtain ⟨contents, cut, added⟩ := added
  have group : ∀ {contents : List (List Char)} {state : ChunkState},
      contents.foldlM (ChunkState.add options.counted metadata source part) state = .ok result →
        ∃ group : List ParsedChunk, result.chunks = state.chunks ++ group ∧
          group.map ParsedChunk.content = contents ∧
          ∀ chunk ∈ group, chunk.sectionPath = part.path := by
    intro contents
    induction contents with
    | nil =>
        intro state added
        cases added
        exact ⟨[], (List.append_nil _).symm, rfl, fun _ member => absurd member List.not_mem_nil⟩
    | cons content contents induction =>
        intro state added
        rw [List.foldlM_cons, bind_eq_ok_iff] at added
        obtain ⟨middle, turned, added⟩ := added
        have turned : state.addText options.counted metadata source (part, content) =
            .ok middle := turned
        obtain ⟨start, chunk, _, middle_eq, path, content_eq, _⟩ :=
          ChunkState.addText_eq_ok turned
        obtain ⟨group, chunks_eq, contents_eq, paths⟩ := induction added
        apply Exists.intro (chunk :: group)
        constructor
        · rw [chunks_eq, middle_eq, List.append_assoc, List.singleton_append]
        constructor
        · rw [List.map_cons, contents_eq, content_eq]
        · intro other member
          rcases List.mem_cons.mp member with first | later
          · rw [first]
            exact path
          · exact paths other later
  obtain ⟨group, chunks_eq, contents_eq, paths⟩ := group added
  apply Exists.intro group
  apply And.intro chunks_eq
  constructor
  · exact paths
  · rw [List.flatMap_def, contents_eq]
    exact sectionContents_covers wide cut

theorem foldlM_addSection_covers (wide : options.targetTokens ≤ options.maxTokens)
    {source : List UInt8} {parts : List MarkdownSection} :
    ∀ {state result : ChunkState},
      parts.foldlM (ChunkState.addSection options.counted metadata source) state = .ok result →
        ∃ groups : List (List ParsedChunk), result.chunks = state.chunks ++ groups.flatten ∧
          List.Forall₂ CoversBody parts groups := by
  induction parts with
  | nil =>
      intro state result added
      cases added
      exact ⟨[], (List.append_nil _).symm, .nil⟩
  | cons part parts induction =>
      intro state result added
      rw [List.foldlM_cons, bind_eq_ok_iff] at added
      obtain ⟨middle, turned, added⟩ := added
      obtain ⟨group, middle_eq, covers⟩ := addSection_covers wide turned
      obtain ⟨groups, chunks_eq, each⟩ := induction added
      apply Exists.intro (group :: groups)
      constructor
      · rw [chunks_eq, middle_eq, List.flatten_cons, List.append_assoc]
      · exact .cons covers each

theorem chunkMarkdown_covers (wide : options.targetTokens ≤ options.maxTokens)
    {markdown : List Char} {chunks : List ParsedChunk}
    (chunked : chunkMarkdown options.counted metadata markdown = .ok chunks) :
    CoversSections markdown chunks := by
  simp only [chunkMarkdown, bind_eq_ok_iff] at chunked
  obtain ⟨state, added, chunks_eq⟩ := chunked
  cases chunks_eq
  obtain ⟨groups, chunks_eq, each⟩ := foldlM_addSection_covers wide added
  exact ⟨groups, by rw [chunks_eq, List.nil_append], each⟩

/-! ## When every body is covered -/

/-- Chunking a document with the default options keeps the paragraphs of each section in windows
and the characters of each section in chunks. -/
structure KeepsKnowledge (metadata : DocumentMetadata) (markdown : List Char) : Prop where
  paragraphs : ∀ part ∈ markdownSections markdown, KeepsParagraphs {} part.body
  characters : ∃ chunks, chunkMarkdown {} metadata markdown = .ok chunks ∧
    CoversSections markdown chunks

/-- Every body has its paragraphs in windows, and a document whose chunks are returned has the
characters of its sections in them. -/
theorem returned_chunks_keep :
    (∀ body, KeepsParagraphs {} body) ∧
      ∀ metadata markdown chunks, chunkMarkdown {} metadata markdown = .ok chunks →
        CoversSections markdown chunks :=
  have wide : ({} : ChunkOptions).targetTokens ≤ ({} : ChunkOptions).maxTokens := by decide
  ⟨textWindows_keep wide, fun _ _ _ => chunkMarkdown_covers wide⟩

/-- A title that leaves no room for a token. -/
def crowdedMetadata : DocumentMetadata where
  documentId := "guide"
  title := List.replicate 512 '。'
  version := "v1"

def shortMarkdown : List Char := "# A\na".toList

/-- The chunks of a document with such a title are refused, so no chunk has its text. -/
theorem crowdedMetadata_keeps_nothing :
    chunkMarkdown {} crowdedMetadata shortMarkdown = .error .metadataTooLong ∧
      ¬KeepsKnowledge crowdedMetadata shortMarkdown := by
  have refused : chunkMarkdown {} crowdedMetadata shortMarkdown = .error .metadataTooLong := by
    decide +kernel
  apply And.intro refused
  intro keeps
  obtain ⟨chunks, chunked, _⟩ := keeps.characters
  rw [refused] at chunked
  cases chunked

end SupportGuard
