import SupportGuard.Rag.ChunkProvenance

/-! # When chunking returns

The paragraphs of a window are joined by one empty line and the lines of a section by a line
feed, whatever stood between them in the document. A text of one line is always found there
again; a text of several lines only if it stands there as it was joined. -/

namespace SupportGuard

open Foundation Fallible

/-! ## Tokens -/

theorem tokenCountFrom_concat_le (inWord : Bool) (text : List Char) (character : Char) :
    tokenCountFrom inWord (text ++ [character]) ≤ tokenCountFrom inWord text + 1 := by
  induction text generalizing inWord with
  | nil =>
      simp only [List.nil_append, tokenCountFrom]
      split <;> split <;> omega
  | cons first text induction =>
      have inside := induction true
      have outside := induction false
      simp only [List.cons_append, tokenCountFrom]
      split
      · omega
      · split <;> omega

theorem tokenCount_concat_le (text : List Char) (character : Char) :
    tokenCount (text ++ [character]) ≤ tokenCount text + 1 :=
  tokenCountFrom_concat_le false text character

/-! ## Pieces -/

/-- Where one character fits, the search ends with one at least. Until something has fitted,
the lower end is still at one. -/
theorem searchFit_pos {fits : Nat → Bool} (one : fits 1) :
    ∀ (fuel low high fit : Nat), high + 1 - low ≤ fuel → 0 < low →
      0 < fit ∨ low = 1 ∧ 0 < high → 0 < searchFit fits fuel low high fit
  | 0, low, high, fit, enough, low_pos, start => by
      rw [searchFit]
      omega
  | fuel + 1, low, high, fit, enough, low_pos, start => by
      rw [searchFit]
      split
      · next inside =>
        simp only
        split
        · next fitted =>
          apply searchFit_pos one fuel
          · omega
          · omega
          · left
            omega
        · next exceeded =>
          apply searchFit_pos one fuel
          · omega
          · exact low_pos
          · obtain positive | ⟨low_eq, _⟩ := start
            · exact .inl positive
            · right
              refine ⟨low_eq, ?_⟩
              by_contra none
              have middle : (low + high) / 2 = 1 := by omega
              rw [middle] at exceeded
              exact exceeded one
      · omega

theorem takeLength_pos (remaining : List Char) {fit : Nat} (positive : 0 < fit) :
    0 < takeLength remaining fit := by
  unfold takeLength
  simp only
  split <;> omega

section Pieces

variable {fits : List Char → Bool}

theorem fit_pos (one : ∀ character, fits [character]) {remaining : List Char}
    (left : remaining ≠ []) :
    0 < searchFit (fun length => fits (remaining.take length)) remaining.length 1
      remaining.length 0 := by
  cases remaining with
  | nil => exact absurd rfl left
  | cons first rest =>
      apply searchFit_pos
      · exact one first
      · simp
      · exact Nat.one_pos
      · simp

theorem cutPieces_within : ∀ {fuel : Nat} {remaining : List Char} {pieces : List (List Char)},
    cutPieces fits fuel remaining = .ok pieces → ∀ piece ∈ pieces, piece <:+: remaining
  | 0, remaining, pieces, cut => by
      cases cut
      simp
  | fuel + 1, remaining, pieces, cut => by
      rw [cutPieces] at cut
      split at cut
      · cases cut
        simp
      · simp only [bind_eq_ok_iff] at cut
        obtain ⟨_, _, later, laterCut, pieces_eq⟩ := cut
        cases pieces_eq
        intro piece member
        rw [List.mem_cons] at member
        obtain first | second := member
        · rw [first]
          exact (stripSpace_within _).trans (List.take_prefix _ _).isInfix
        · have inside := cutPieces_within laterCut piece second
          exact inside.trans
            ((List.dropWhile_suffix _).isInfix.trans (List.drop_suffix _ _).isInfix)

theorem cutPieces_returns (one : ∀ character, fits [character]) :
    ∀ (fuel : Nat) (remaining : List Char), ∃ pieces, cutPieces fits fuel remaining = .ok pieces
  | 0, _ => ⟨[], rfl⟩
  | fuel + 1, remaining => by
      rw [cutPieces]
      split
      · exact ⟨[], rfl⟩
      · next left =>
        have positive := fit_pos one left
        obtain ⟨later, laterCut⟩ := cutPieces_returns one fuel
          ((remaining.drop (takeLength remaining (searchFit
            (fun length => fits (remaining.take length)) remaining.length 1
              remaining.length 0))).dropWhile isTextSpace)
        simp only [bind_eq_ok_iff, refuseWhen_eq_ok_iff]
        exact ⟨_, (), by omega, later, laterCut, rfl⟩

theorem cutPieces_nil (fuel : Nat) : cutPieces fits fuel [] = .ok [] := by
  cases fuel with
  | zero => rfl
  | succ fuel => simp [cutPieces, pure, Except.pure]

/-- Fuel for every character is enough: more of it changes nothing. -/
theorem cutPieces_fuel : ∀ (fuel other : Nat) (remaining : List Char),
    remaining.length ≤ fuel → remaining.length ≤ other →
      cutPieces fits fuel remaining = cutPieces fits other remaining
  | fuel, other, [], _, _ => by
      rw [cutPieces_nil, cutPieces_nil]
  | 0, _, _ :: _, enough, _ => absurd enough (by simp)
  | _, 0, _ :: _, _, enough => absurd enough (by simp)
  | fuel + 1, other + 1, first :: rest, enough, otherEnough => by
      rw [cutPieces, cutPieces, if_neg (List.cons_ne_nil _ _), if_neg (List.cons_ne_nil _ _)]
      generalize searchFit (fun length => fits ((first :: rest).take length))
        (first :: rest).length 1 (first :: rest).length 0 = fit
      by_cases none : fit = 0
      · simp [refuseWhen, none, bind, Except.bind]
      · have taken := takeLength_pos (first :: rest) (Nat.pos_of_ne_zero none)
        have shorter := (List.dropWhile_suffix isTextSpace
          (l := (first :: rest).drop (takeLength (first :: rest) fit))).length_le
        rw [List.length_drop] at shorter
        have same := cutPieces_fuel fuel other _
          (shorter.trans (by omega)) (shorter.trans (by omega))
        simp only [same]

end Pieces

/-- A text can be a chunk of the document: it has characters, and its lines stand there. -/
def Chunkable (markdown text : List Char) : Prop :=
  text ≠ [] ∧ LinesStandIn markdown text

theorem boundedPieces_chunkable {markdown content pathPrefix : List Char}
    {counter : List Char → Nat} {maximum : Nat} {pieces : List (List Char)}
    (good : Chunkable markdown content)
    (cut : boundedPieces content pathPrefix counter maximum = .ok pieces) :
    ∀ piece ∈ pieces, Chunkable markdown piece := by
  unfold boundedPieces at cut
  simp only at cut
  split at cut
  · cases cut
    intro piece member
    rw [List.mem_singleton.1 member]
    exact good
  · rw [bind_eq_ok_iff] at cut
    obtain ⟨all, cutAll, pieces_eq⟩ := cut
    cases pieces_eq
    intro piece member
    rw [List.mem_filter, decide_eq_true_eq] at member
    exact ⟨member.2, good.2.part (cutPieces_within cutAll piece member.1)⟩

/-- With room for one character, the pieces are cut. -/
theorem boundedPieces_returns {content pathPrefix : List Char} {maximum : Nat}
    (room : tokenCount pathPrefix < maximum) :
    ∃ pieces, boundedPieces content pathPrefix tokenCount maximum = .ok pieces := by
  have one : ∀ character, tokenCount (pathPrefix ++ [character]) ≤ maximum := by
    intro character
    have bound := tokenCount_concat_le pathPrefix character
    omega
  unfold boundedPieces
  simp only
  split
  · exact ⟨_, rfl⟩
  · have returns : ∃ pieces, cutPieces (fun text => decide
        (tokenCount (pathPrefix ++ text) ≤ maximum)) content.length content = .ok pieces :=
      cutPieces_returns (fun character => decide_eq_true (one character)) _ _
    obtain ⟨pieces, cut⟩ := returns
    rw [cut]
    exact ⟨_, rfl⟩

/-! ## Windows -/

theorem mem_consHead {character : Char} {parts : List (List Char)} {part : List Char}
    (member : part ∈ consHead character parts) :
    part ∈ parts ∨ part = [character] ∨
      ∃ first rest, parts = first :: rest ∧ part = character :: first := by
  cases parts with
  | nil => exact .inr (.inl (List.mem_singleton.1 member))
  | cons first rest =>
      rw [consHead, List.mem_cons] at member
      obtain head | tail := member
      · exact .inr (.inr ⟨first, rest, rfl, head⟩)
      · exact .inl (List.mem_cons_of_mem _ tail)

/-- Outside a match the text goes on with the first part. -/
theorem splitBlankLines_starts {text first : List Char} {rest : List (List Char)}
    (split : splitBlankLines 0 text = first :: rest) : first <+: text := by
  induction text generalizing first rest with
  | nil =>
      cases split
      exact List.prefix_rfl
  | cons character text induction =>
      rw [splitBlankLines] at split
      split at split
      · cases later : splitBlankLines 0 text with
        | nil =>
            rw [later] at split
            cases split
            exact ⟨text, rfl⟩
        | cons next others =>
            rw [later] at split
            cases split
            rw [List.cons_prefix_cons]
            exact ⟨rfl, induction later⟩
      · cases split
        exact List.nil_prefix

theorem splitBlankLines_within {skip : Nat} {text part : List Char}
    (member : part ∈ splitBlankLines skip text) : part <:+: text := by
  induction text generalizing skip part with
  | nil =>
      have empty : part = [] := by
        cases skip <;> simpa [splitBlankLines] using member
      rw [empty]
  | cons character text induction =>
      have later : text <:+: character :: text := (List.suffix_cons character text).isInfix
      cases skip with
      | succ skip => exact (induction (by simpa [splitBlankLines] using member)).trans later
      | zero =>
          rw [splitBlankLines] at member
          split at member
          · obtain tail | single | ⟨first, rest, parts_eq, part_eq⟩ := mem_consHead member
            · exact (induction tail).trans later
            · rw [single]
              exact (show [character] <+: character :: text from ⟨text, rfl⟩).isInfix
            · rw [part_eq]
              apply List.IsPrefix.isInfix
              rw [List.cons_prefix_cons]
              exact ⟨rfl, splitBlankLines_starts parts_eq⟩
          · rw [List.mem_cons] at member
            obtain empty | tail := member
            · rw [empty]
              exact List.nil_infix
            · exact (induction tail).trans later

theorem paragraphs_chunkable {markdown text : List Char} (lines : LinesStandIn markdown text) :
    ∀ paragraph ∈ paragraphs text, Chunkable markdown paragraph := by
  intro paragraph member
  unfold paragraphs at member
  rw [List.mem_filter, decide_eq_true_eq, List.mem_map] at member
  obtain ⟨⟨part, found, stripped⟩, filled⟩ := member
  rw [← stripped] at filled ⊢
  exact ⟨filled, lines.part ((stripSpace_within part).trans (splitBlankLines_within found))⟩

theorem joinParagraphs_chunkable {markdown : List Char} {parts : List (List Char)}
    (some : parts ≠ []) (good : ∀ part ∈ parts, Chunkable markdown part) :
    Chunkable markdown (joinParagraphs parts) := by
  constructor
  · cases parts with
    | nil => exact absurd rfl some
    | cons first rest =>
        have filled := (good first List.mem_cons_self).1
        cases rest with
        | nil => simpa [joinParagraphs] using filled
        | cons second rest => simp [joinParagraphs, List.intercalate_cons_cons]
  · exact LinesStandIn.joinParagraphs fun part member => (good part member).2

theorem overlapTail_subset {overlap : Nat} {backwards tail : List (List Char)} {size : Nat}
    {part : List Char} (member : part ∈ (overlapTail overlap backwards tail size).1) :
    part ∈ backwards ∨ part ∈ tail := by
  induction backwards generalizing tail size with
  | nil => exact .inr member
  | cons prior earlier induction =>
      rw [overlapTail] at member
      split at member
      · exact .inr member
      · obtain before | after := induction member
        · exact .inl (List.mem_cons_of_mem _ before)
        · rw [List.mem_cons] at after
          obtain same | old := after
          · exact .inl (same ▸ List.mem_cons_self)
          · exact .inr old

/-- Every window and every paragraph that waits for one can be a chunk. -/
structure WindowState.Chunkable (markdown : List Char) (state : WindowState) : Prop where
  windows : ∀ window ∈ state.windows, SupportGuard.Chunkable markdown window
  current : ∀ paragraph ∈ state.current, SupportGuard.Chunkable markdown paragraph

namespace WindowState

variable {markdown : List Char} {state : WindowState}

theorem chunkable_close (good : state.Chunkable markdown) (some : state.current ≠ [])
    (overlap : Nat) : (state.close overlap).Chunkable markdown where
  windows := by
    intro window member
    simp only [close, List.mem_append, List.mem_singleton] at member
    obtain old | new := member
    · exact good.windows window old
    · rw [new]
      exact joinParagraphs_chunkable some good.current
  current := by
    intro paragraph member
    obtain before | none := overlapTail_subset member
    · exact good.current paragraph (List.mem_reverse.1 before)
    · exact absurd none List.not_mem_nil

theorem chunkable_add {target overlap maximum : Nat} {paragraph : List Char}
    (good : state.Chunkable markdown) (filled : SupportGuard.Chunkable markdown paragraph) :
    (state.add target overlap maximum paragraph).Chunkable markdown := by
  unfold add
  simp only
  have ready : (if state.current ≠ [] ∧ target < state.currentTokens + tokenCount paragraph then
      state.close overlap else state).Chunkable markdown := by
    split
    · next full => exact chunkable_close good full.1 overlap
    · exact good
  split
  · constructor
    · intro window member
      rw [List.mem_append, List.mem_singleton] at member
      obtain old | new := member
      · exact ready.windows window old
      · exact new ▸ filled
    · intro other member
      exact absurd member List.not_mem_nil
  · constructor
    · exact ready.windows
    · intro other member
      rw [List.mem_append, List.mem_singleton] at member
      obtain old | new := member
      · exact ready.current other old
      · exact new ▸ filled

theorem chunkable_foldl {target overlap maximum : Nat} {parts : List (List Char)}
    (good : state.Chunkable markdown)
    (filled : ∀ part ∈ parts, SupportGuard.Chunkable markdown part) :
    (parts.foldl (add target overlap maximum) state).Chunkable markdown := by
  induction parts generalizing state with
  | nil => exact good
  | cons part parts induction =>
      apply induction
      · exact chunkable_add good (filled part List.mem_cons_self)
      · intro other member
        exact filled other (List.mem_cons_of_mem _ member)

end WindowState

theorem textWindows_chunkable {markdown text : List Char} {target overlap maximum : Nat}
    (lines : LinesStandIn markdown text) :
    ∀ window ∈ textWindows text target overlap maximum, Chunkable markdown window := by
  have start : ({} : WindowState).Chunkable markdown := by
    constructor
    · intro window member
      exact absurd member List.not_mem_nil
    · intro paragraph member
      exact absurd member List.not_mem_nil
  have good : ((paragraphs text).foldl (WindowState.add target overlap maximum) {}).Chunkable
      markdown := WindowState.chunkable_foldl start (paragraphs_chunkable lines)
  intro window member
  unfold textWindows at member
  simp only at member
  split at member
  · next some =>
    rw [List.mem_append, List.mem_singleton] at member
    obtain old | new := member
    · exact good.windows window old
    · rw [new]
      exact joinParagraphs_chunkable some good.current
  · exact good.windows window member

/-! ## Sections -/

theorem markdownSections_lines {markdown : List Char} {part : MarkdownSection}
    (member : part ∈ markdownSections markdown) : LinesStandIn markdown part.body := by
  obtain ⟨lines, made⟩ := markdownSections_madeOf member
  obtain ⟨before, after, markdown_eq, _⟩ := made.stands
  have source : part.source <:+: markdown := ⟨before, after, markdown_eq.symm⟩
  rw [made.source_eq] at source
  rw [made.body_eq]
  apply LinesStandIn.part _ (stripSpace_within _)
  apply LinesStandIn.joinLines
  intro text found
  rw [List.mem_map] at found
  obtain ⟨line, lineMember, text_eq⟩ := found
  rw [← text_eq]
  apply LinesStandIn.of_infix
  calc line.text
    _ <:+: line.source := (List.prefix_append _ _).isInfix
    _ <:+: lines.flatMap SourceLine.source := SourceLine.source_within lineMember
    _ <:+: markdown := source

variable {options : ChunkOptions}

theorem sectionContents_chunkable {title markdown : List Char} {part : MarkdownSection}
    {contents : List (List Char)} (member : part ∈ markdownSections markdown)
    (cut : sectionContents options title part = .ok contents) :
    ∀ content ∈ contents, Chunkable markdown content := by
  simp only [sectionContents, bind_eq_ok_iff] at cut
  obtain ⟨pieces, mapped, contents_eq⟩ := cut
  cases contents_eq
  intro content found
  rw [List.mem_flatten] at found
  obtain ⟨some, someMember, inside⟩ := found
  obtain ⟨window, windowMember, cutWindow⟩ := mem_of_mapM mapped someMember
  have good := textWindows_chunkable (markdownSections_lines member) window windowMember
  exact boundedPieces_chunkable good cutWindow content inside

/-- The title and the path leave room for one character. -/
def HasRoom (title : List Char) (part : MarkdownSection) : Prop :=
  tokenCount (sectionPrefix title part.path) < embeddingLimit

instance (title : List Char) (part : MarkdownSection) : Decidable (HasRoom title part) :=
  inferInstanceAs (Decidable (_ < _))

theorem sectionContents_returns {title : List Char} {part : MarkdownSection}
    (room : HasRoom title part) : ∃ contents, sectionContents {} title part = .ok contents := by
  simp only [sectionContents, bind_eq_ok_iff]
  obtain ⟨pieces, mapped⟩ := mapM_returns fun window _ => boundedPieces_returns room
  exact ⟨_, pieces, mapped, rfl⟩

theorem sectionTexts_returns {title : List Char} {parts : List MarkdownSection}
    (room : ∀ part ∈ parts, HasRoom title part) :
    ∃ texts, sectionTexts {} title parts = .ok texts := by
  induction parts with
  | nil => exact ⟨[], rfl⟩
  | cons part parts induction =>
      obtain ⟨contents, cut⟩ := sectionContents_returns (room part List.mem_cons_self)
      obtain ⟨later, laterCut⟩ := induction fun other member =>
        room other (List.mem_cons_of_mem _ member)
      simp only [sectionTexts, bind_eq_ok_iff]
      exact ⟨_, contents, cut, later, laterCut, rfl⟩

/-- The texts are the contents of the sections. -/
theorem mem_sectionTexts {title : List Char} {parts : List MarkdownSection}
    {texts : List (MarkdownSection × List Char)} {text : MarkdownSection × List Char}
    (cut : sectionTexts options title parts = .ok texts) :
    text ∈ texts ↔ text.1 ∈ parts ∧
      ∃ contents, sectionContents options title text.1 = .ok contents ∧ text.2 ∈ contents := by
  induction parts generalizing texts with
  | nil =>
      cases cut
      simp
  | cons part parts induction =>
      simp only [sectionTexts, bind_eq_ok_iff] at cut
      obtain ⟨contents, cutPart, later, laterCut, texts_eq⟩ := cut
      cases texts_eq
      rw [List.mem_append, induction laterCut, List.mem_cons, List.mem_map]
      constructor
      · intro member
        obtain ⟨content, found, text_eq⟩ | ⟨found, rest⟩ := member
        · subst text_eq
          exact ⟨.inl rfl, contents, cutPart, found⟩
        · exact ⟨.inr found, rest⟩
      · intro listed
        obtain ⟨member, others, cutText, found⟩ := listed
        obtain same | old := member
        · left
          rw [same, cutPart] at cutText
          cases cutText
          exact ⟨text.2, found, by rw [← same]⟩
        · exact .inr ⟨old, others, cutText, found⟩

/-! ## The run -/

theorem addText_returns {metadata : DocumentMetadata} {source : List UInt8} {state : ChunkState}
    {text : MarkdownSection × List Char} (filled : JsonText.utf8 text.2 ≠ [])
    (stands : JsonText.utf8 text.2 <:+: source) :
    ∃ result, state.addText options metadata source text = .ok result := by
  obtain ⟨place, occurs⟩ := exists_occursAt_iff.2 stands
  simp only [ChunkState.addText, ChunkState.add]
  cases located : locate source (JsonText.utf8 text.2) state.locatorCursor with
  | none =>
      rw [locate, Option.or_eq_none_iff, findFrom_eq_none_iff] at located
      rw [findFrom_eq_none_iff] at located
      exact absurd occurs (located.2 place (Nat.zero_le _))
  | some start =>
      have first := (locate_eq_some_iff.1 located).1
      have positive := List.length_pos_of_ne_nil filled
      have built : ∃ locator, SourceLocatorV1.build metadata.documentId metadata.version source
          start (start + (JsonText.utf8 text.2).length) = .ok locator := by
        rw [SourceLocatorV1.build_eq_ok_iff]
        exact ⟨by omega, first.le⟩
      obtain ⟨locator, built⟩ := built
      simp only [bind_eq_ok_iff]
      exact ⟨_, locator, built, rfl⟩

theorem foldlM_addText_returns_iff {metadata : DocumentMetadata} {source : List UInt8}
    {texts : List (MarkdownSection × List Char)} {state : ChunkState}
    (filled : ∀ text ∈ texts, JsonText.utf8 text.2 ≠ []) :
    (∃ result, texts.foldlM (ChunkState.addText options metadata source) state = .ok result) ↔
      ∀ text ∈ texts, JsonText.utf8 text.2 <:+: source := by
  induction texts generalizing state with
  | nil => simp [pure, Except.pure]
  | cons text texts induction =>
      have rest : ∀ next : ChunkState,
          (∃ result, texts.foldlM (ChunkState.addText options metadata source) next =
            .ok result) ↔ ∀ other ∈ texts, JsonText.utf8 other.2 <:+: source :=
        fun next => induction fun other member => filled other (List.mem_cons_of_mem _ member)
      simp only [List.foldlM_cons, bind_eq_ok_iff, List.forall_mem_cons]
      constructor
      · intro found
        obtain ⟨result, next, added, later⟩ := found
        obtain ⟨start, _, first, _⟩ := ChunkState.addText_eq_ok added
        exact ⟨exists_occursAt_iff.1 ⟨start, first.1⟩, (rest next).1 ⟨result, later⟩⟩
      · intro within
        obtain ⟨stands, others⟩ := within
        obtain ⟨next, added⟩ := addText_returns (filled text List.mem_cons_self) stands
        obtain ⟨result, later⟩ := (rest next).2 others
        exact ⟨result, next, added, later⟩

theorem utf8_within {part whole : List Char} (stands : part <:+: whole) :
    JsonText.utf8 part <:+: JsonText.utf8 whole := by
  obtain ⟨before, after, whole_eq⟩ := stands
  rw [← whole_eq, utf8_append, utf8_append]
  exact ⟨_, _, rfl⟩

theorem utf8_ne_nil {text : List Char} (filled : text ≠ []) : JsonText.utf8 text ≠ [] := by
  intro empty
  exact filled (JsonText.utf8_injective empty)

/-- Every text of several lines that the windows and the pieces make stands in the document as
they have joined it. -/
def JoinedTextsStand (title markdown : List Char) : Prop :=
  ∀ part ∈ markdownSections markdown, ∀ contents, sectionContents {} title part = .ok contents →
    ∀ content ∈ contents, '\n' ∈ content →
      JsonText.utf8 content <:+: JsonText.utf8 markdown

theorem chunkMarkdown_returns_iff {metadata : DocumentMetadata} {markdown : List Char}
    (room : ∀ part ∈ markdownSections markdown, HasRoom metadata.title part) :
    (∃ chunks, chunkMarkdown {} metadata markdown = .ok chunks) ↔
      JoinedTextsStand metadata.title markdown := by
  obtain ⟨texts, cut⟩ := sectionTexts_returns room
  have good : ∀ text ∈ texts, Chunkable markdown text.2 := by
    intro text member
    obtain ⟨partMember, contents, cutPart, found⟩ := (mem_sectionTexts cut).1 member
    exact sectionContents_chunkable partMember cutPart text.2 found
  have filled : ∀ text ∈ texts, JsonText.utf8 text.2 ≠ [] :=
    fun text member => utf8_ne_nil (good text member).1
  have returns : (∃ chunks, chunkMarkdown {} metadata markdown = .ok chunks) ↔
      ∀ text ∈ texts, JsonText.utf8 text.2 <:+: JsonText.utf8 markdown := by
    rw [← foldlM_addText_returns_iff filled]
    simp only [chunkMarkdown_eq_ok_iff, cut, Except.ok.injEq, exists_eq_left']
    constructor
    · intro ⟨_, state, added, _⟩
      exact ⟨state, added⟩
    · intro ⟨state, added⟩
      exact ⟨_, state, added, rfl⟩
  rw [returns]
  constructor
  · intro stands part member contents cutPart content found _
    exact stands (part, content) ((mem_sectionTexts cut).2 ⟨member, contents, cutPart, found⟩)
  · intro joined text member
    obtain ⟨partMember, contents, cutPart, found⟩ := (mem_sectionTexts cut).1 member
    by_cases several : '\n' ∈ text.2
    · exact joined text.1 partMember contents cutPart text.2 found several
    · exact utf8_within ((good text member).2 text.2 List.infix_rfl several)

/-- Two empty lines between the paragraphs. -/
def spacedMarkdown : List Char := "# A\na\n\n\nb\n".toList

theorem spacedMarkdown_room :
    ∀ part ∈ markdownSections spacedMarkdown, HasRoom guideMetadata.title part := by
  decide +kernel

theorem chunkMarkdown_returns_iff_spaced :
    (∀ part ∈ markdownSections spacedMarkdown, HasRoom guideMetadata.title part) ∧
      ((∃ chunks, chunkMarkdown {} guideMetadata spacedMarkdown = .ok chunks) ↔
        JoinedTextsStand guideMetadata.title spacedMarkdown) := by
  constructor
  · exact spacedMarkdown_room
  · exact chunkMarkdown_returns_iff spacedMarkdown_room

/-- The window has one empty line where the document has two. -/
theorem chunkMarkdown_refuses_spaced :
    (∀ character ∈ spacedMarkdown, character.toNat < 128 ∧ character ≠ '\r') ∧
      (∀ part ∈ markdownSections spacedMarkdown, HasRoom guideMetadata.title part) ∧
      chunkMarkdown {} guideMetadata spacedMarkdown = .error .notASourceSpan := by
  refine ⟨?_, spacedMarkdown_room, by decide +kernel⟩
  have plain : (spacedMarkdown.all fun character =>
      decide (character.toNat < 128) && decide (character ≠ '\r')) = true := by
    decide +kernel
  simpa using plain

end SupportGuard
