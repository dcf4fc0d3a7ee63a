import Mathlib
import SupportGuard.Rag.ChunkTotality

/-! # Pieces under the limit

A prefix that ends with a line feed is counted apart from what follows it, so a text fits
where its own tokens do. The search can only end with a start that fits, and what the cut
leaves out is white space. -/

namespace SupportGuard

open Foundation Fallible

/-! ## Counting tokens -/

theorem wordCharacter_visible {character : Char} (word : isWordCharacter character = true) :
    0x21 ≤ character.toNat ∧ character.toNat ≤ 0x7E := by
  simp only [isWordCharacter, Char.isAlphanum, Char.isAlpha, Char.isUpper, Char.isLower,
    Char.isDigit, Bool.or_eq_true, Bool.and_eq_true, decide_eq_true_eq, List.mem_cons,
    List.not_mem_nil, or_false, ge_iff_le, UInt32.le_iff_toNat_le] at word
  rcases word with ((upper | lower) | digit) | mark
  · simp only [Char.toNat]
    exact ⟨Nat.le_trans (by decide) upper.1, Nat.le_trans upper.2 (by decide)⟩
  · simp only [Char.toNat]
    exact ⟨Nat.le_trans (by decide) lower.1, Nat.le_trans lower.2 (by decide)⟩
  · simp only [Char.toNat]
    exact ⟨Nat.le_trans (by decide) digit.1, Nat.le_trans digit.2 (by decide)⟩
  · rcases mark with equal | equal | equal | equal | equal <;> subst equal <;> decide

theorem not_word_of_space {character : Char} (space : isTextSpace character = true) :
    isWordCharacter character = false := by
  apply Bool.eq_false_iff.mpr
  intro word
  have visible := wordCharacter_visible word
  simp only [isTextSpace, List.mem_cons, List.not_mem_nil, or_false, Bool.or_eq_true,
    Bool.and_eq_true, decide_eq_true_eq] at space
  omega

theorem tokenCountFrom_append_le (inWord : Bool) (left right : List Char) :
    tokenCountFrom inWord left ≤ tokenCountFrom inWord (left ++ right) := by
  induction left generalizing inWord with
  | nil => exact Nat.zero_le _
  | cons character left induction =>
      have inside := induction true
      have outside := induction false
      simp only [List.cons_append, tokenCountFrom]
      split
      · omega
      · split <;> omega

theorem tokenCount_prefix {part text : List Char} (starts : part <+: text) :
    tokenCount part ≤ tokenCount text := by
  obtain ⟨rest, text_eq⟩ := starts
  rw [← text_eq]
  exact tokenCountFrom_append_le false part rest

theorem tokenCount_dropWhile (text : List Char) :
    tokenCount (text.dropWhile isTextSpace) = tokenCount text := by
  induction text with
  | nil => rfl
  | cons character text induction =>
      rw [List.dropWhile_cons]
      split
      · next space =>
        rw [induction]
        simp [tokenCount, tokenCountFrom, not_word_of_space space, space]
      · rfl

theorem tokenCount_stripSpace_le (text : List Char) :
    tokenCount (stripSpace text) ≤ tokenCount text := by
  have start : stripSpace text <+: text.dropWhile isTextSpace :=
    List.rdropWhile_prefix isTextSpace (text.dropWhile isTextSpace)
  have bound := tokenCount_prefix start
  rw [tokenCount_dropWhile] at bound
  exact bound

/-- A line feed ends a token. -/
theorem tokenCountFrom_line (inWord : Bool) (start text : List Char) :
    tokenCountFrom inWord (start ++ '\n' :: text) =
      tokenCountFrom inWord start + tokenCount text := by
  induction start generalizing inWord with
  | nil => simp [tokenCountFrom, tokenCount, isWordCharacter, isTextSpace]
  | cons character start induction =>
      simp only [List.cons_append, tokenCountFrom, induction]
      split
      · omega
      · split <;> omega

/-- A text that ends with a line feed. -/
def lineOf (start : List Char) : List Char :=
  start ++ ['\n']

theorem tokenCount_line (start text : List Char) :
    tokenCount (lineOf start ++ text) = tokenCount (lineOf start) + tokenCount text := by
  have whole := tokenCountFrom_line false start text
  have alone := tokenCountFrom_line false start []
  have nothing : tokenCount [] = 0 := rfl
  rw [lineOf, List.append_assoc, List.singleton_append]
  simp only [tokenCount] at whole alone nothing ⊢
  omega

/-! ## White space left out -/

def withoutSpaces (text : List Char) : List Char :=
  text.filter fun character => !isTextSpace character

theorem withoutSpaces_append (left right : List Char) :
    withoutSpaces (left ++ right) = withoutSpaces left ++ withoutSpaces right :=
  List.filter_append ..

theorem withoutSpaces_dropWhile (text : List Char) :
    withoutSpaces (text.dropWhile isTextSpace) = withoutSpaces text := by
  induction text with
  | nil => rfl
  | cons character text induction =>
      rw [List.dropWhile_cons]
      split
      · next space =>
        rw [induction]
        simp [withoutSpaces, space]
      · rfl

theorem withoutSpaces_reverse (text : List Char) :
    withoutSpaces text.reverse = (withoutSpaces text).reverse :=
  List.filter_reverse ..

theorem withoutSpaces_stripSpace (text : List Char) :
    withoutSpaces (stripSpace text) = withoutSpaces text := by
  rw [stripSpace, withoutSpaces_reverse, withoutSpaces_dropWhile, withoutSpaces_reverse,
    List.reverse_reverse, withoutSpaces_dropWhile]

/-! ## The search and the cut -/

/-- What the search ends with has fitted. -/
theorem searchFit_fits (fits : Nat → Bool) :
    ∀ (fuel low high fit : Nat), fit = 0 ∨ fits fit = true →
      searchFit fits fuel low high fit = 0 ∨ fits (searchFit fits fuel low high fit) = true
  | 0, _, _, _, start => start
  | fuel + 1, low, high, fit, start => by
      rw [searchFit]
      split
      · simp only
        split
        · next fitted => exact searchFit_fits fits fuel _ _ _ (.inr fitted)
        · exact searchFit_fits fits fuel _ _ _ start
      · exact start

theorem rfind_lt (character : Char) (text : List Char) :
    rfind character text < max 1 (text.length : Int) := by
  rw [rfind]
  split <;> omega

theorem takeLength_le (remaining : List Char) {fit : Nat} (positive : 0 < fit) :
    takeLength remaining fit ≤ fit := by
  have bound : ((remaining.take fit).length : Int) ≤ fit := by
    rw [List.length_take]
    omega
  have line := rfind_lt '\n' (remaining.take fit)
  have sentence := rfind_lt '。' (remaining.take fit)
  have word := rfind_lt ' ' (remaining.take fit)
  simp only [takeLength]
  split <;> omega

/-! ## The pieces -/

/-- The longest start that the search finds. -/
def longestFit (fits : List Char → Bool) (remaining : List Char) : Nat :=
  searchFit (fun length => fits (remaining.take length)) remaining.length 1 remaining.length 0

/-- What is left after one turn of the loop. -/
def afterPiece (fits : List Char → Bool) (remaining : List Char) : List Char :=
  (remaining.drop (takeLength remaining (longestFit fits remaining))).dropWhile isTextSpace

/-- The texts that the loop has in front of it, from the first on. -/
inductive Remainder (fits : List Char → Bool) : List Char → List Char → Prop
  | here (remaining : List Char) : Remainder fits remaining remaining
  | later {remaining other : List Char} (filled : remaining ≠ [])
      (rest : Remainder fits (afterPiece fits remaining) other) : Remainder fits remaining other

/-- The pieces of a text: none is empty, each fits behind the prefix, and together they have
every character of the text that is no white space. -/
structure PiecesOf (content pathPrefix : List Char) (maximum : Nat)
    (pieces : List (List Char)) : Prop where
  filled : ∀ piece ∈ pieces, piece ≠ []
  within : ∀ piece ∈ pieces, tokenCount (pathPrefix ++ piece) ≤ maximum
  whole : withoutSpaces pieces.flatten = withoutSpaces content

def fitsBehind (pathPrefix : List Char) (maximum : Nat) (text : List Char) : Bool :=
  decide (tokenCount (pathPrefix ++ text) ≤ maximum)

/-- The loop ends within a turn for each character, and where it is refused, one of the texts in
front of it starts with a character that does not fit. -/
structure BoundedSplit (content pathPrefix : List Char) (maximum : Nat) : Prop where
  ends : ∀ fuel, content.length ≤ fuel →
    cutPieces (fitsBehind pathPrefix maximum) fuel content =
      cutPieces (fitsBehind pathPrefix maximum) content.length content
  refused : ∀ error, boundedPieces content pathPrefix tokenCount maximum = .error error →
    ∃ first rest, Remainder (fitsBehind pathPrefix maximum) content (first :: rest) ∧
      maximum < tokenCount (pathPrefix ++ [first])
  returned : ∀ pieces, boundedPieces content pathPrefix tokenCount maximum = .ok pieces →
    PiecesOf content pathPrefix maximum pieces

section Cut

variable {fits : List Char → Bool}

theorem cutPieces_succ (fuel : Nat) {remaining : List Char} (filled : remaining ≠ []) :
    cutPieces fits (fuel + 1) remaining = (do
      refuseWhen (longestFit fits remaining = 0) .metadataTooLong
      let pieces ← cutPieces fits fuel (afterPiece fits remaining)
      return stripSpace (remaining.take (takeLength remaining (longestFit fits remaining))) ::
        pieces) := by
  rw [cutPieces, if_neg filled]
  rfl

theorem length_afterPiece {remaining : List Char} (found : longestFit fits remaining ≠ 0)
    (filled : remaining ≠ []) : (afterPiece fits remaining).length < remaining.length := by
  have taken := takeLength_pos remaining (Nat.pos_of_ne_zero found)
  have shorter := (List.dropWhile_suffix isTextSpace
    (l := remaining.drop (takeLength remaining (longestFit fits remaining)))).length_le
  rw [List.length_drop] at shorter
  have positive := List.length_pos_iff.mpr filled
  rw [afterPiece]
  omega

/-- Where nothing fits, one character does not. -/
theorem first_unfit {first : Char} {rest : List Char}
    (none : longestFit fits (first :: rest) = 0) : fits [first] = false := by
  apply Bool.eq_false_iff.mpr
  intro one
  have positive : 0 < longestFit fits (first :: rest) := by
    apply searchFit_pos
    · exact one
    · simp
    · exact Nat.one_pos
    · simp
  omega

/-- The loop is refused at a text whose first character does not fit. -/
theorem cutPieces_refused {error : ChunkError} :
    ∀ {fuel : Nat} {remaining : List Char}, cutPieces fits fuel remaining = .error error →
      ∃ first rest, Remainder fits remaining (first :: rest) ∧ fits [first] = false
  | 0, remaining, refused => by cases refused
  | fuel + 1, remaining, refused => by
      cases remaining with
      | nil =>
          rw [cutPieces_nil] at refused
          cases refused
      | cons first rest =>
          have filled : first :: rest ≠ [] := List.cons_ne_nil _ _
          rw [cutPieces_succ fuel filled] at refused
          by_cases none : longestFit fits (first :: rest) = 0
          · exact ⟨first, rest, .here _, first_unfit none⟩
          · simp only [refuseWhen, if_neg none, bind, Except.bind, pure, Except.pure] at refused
            cases inner : cutPieces fits fuel (afterPiece fits (first :: rest)) with
            | ok pieces =>
                rw [inner] at refused
                cases refused
            | error other =>
                rw [inner] at refused
                cases refused
                obtain ⟨character, later, reached, unfit⟩ := cutPieces_refused inner
                exact ⟨character, later, .later filled reached, unfit⟩

/-- A part that is no longer, with white space around it or not, fits where the text does. -/
structure Downward (fits : List Char → Bool) : Prop where
  starts : ∀ {part text : List Char}, part <+: text → fits text = true → fits part = true
  strips : ∀ {text : List Char}, fits text = true → fits (stripSpace text) = true

theorem piece_fits (down : Downward fits) {remaining : List Char}
    (found : longestFit fits remaining ≠ 0) :
    fits (stripSpace (remaining.take (takeLength remaining (longestFit fits remaining)))) =
      true := by
  apply down.strips
  have fitted : fits (remaining.take (longestFit fits remaining)) = true := by
    rcases searchFit_fits (fun length => fits (remaining.take length))
      remaining.length 1 remaining.length 0 (.inl rfl) with none | fitted
    · exact absurd none found
    · exact fitted
  apply down.starts _ fitted
  apply List.take_prefix_take_left
  exact takeLength_le remaining (Nat.pos_of_ne_zero found)

theorem withoutSpaces_afterPiece (remaining : List Char) :
    withoutSpaces
        (stripSpace (remaining.take (takeLength remaining (longestFit fits remaining)))) ++
      withoutSpaces (afterPiece fits remaining) = withoutSpaces remaining := by
  rw [withoutSpaces_stripSpace, afterPiece, withoutSpaces_dropWhile, ← withoutSpaces_append,
    List.take_append_drop]

theorem cutPieces_pieces (down : Downward fits) :
    ∀ {fuel : Nat} {remaining : List Char} {pieces : List (List Char)},
      remaining.length ≤ fuel → cutPieces fits fuel remaining = .ok pieces →
        (∀ piece ∈ pieces, fits piece = true) ∧
          withoutSpaces pieces.flatten = withoutSpaces remaining
  | fuel, [], pieces, _, cut => by
      rw [cutPieces_nil] at cut
      cases cut
      exact ⟨fun piece member => absurd member List.not_mem_nil, rfl⟩
  | 0, _ :: _, _, enough, _ => absurd enough (by simp)
  | fuel + 1, first :: rest, pieces, enough, cut => by
      have filled : first :: rest ≠ [] := List.cons_ne_nil _ _
      simp only [cutPieces_succ fuel filled, bind_eq_ok_iff, refuseWhen_eq_ok_iff] at cut
      obtain ⟨_, found, later, laterCut, pieces_eq⟩ := cut
      cases pieces_eq
      have shorter := length_afterPiece found filled
      obtain ⟨fitted, whole⟩ := cutPieces_pieces down (by omega) laterCut
      constructor
      · intro piece member
        rcases List.mem_cons.mp member with head | tail
        · rw [head]
          exact piece_fits down found
        · exact fitted piece tail
      · rw [List.flatten_cons, withoutSpaces_append, whole, withoutSpaces_afterPiece]

end Cut

section Prefix

variable {start content : List Char} {maximum : Nat} {pieces : List (List Char)}

theorem fitsBehind_line (text : List Char) :
    fitsBehind (lineOf start) maximum text = true ↔
      tokenCount (lineOf start) + tokenCount text ≤ maximum := by
  rw [fitsBehind, decide_eq_true_eq, tokenCount_line]

theorem downward_line : Downward (fitsBehind (lineOf start) maximum) where
  starts := by
    intro part text starts fitted
    rw [fitsBehind_line] at fitted ⊢
    have bound := tokenCount_prefix starts
    omega
  strips := by
    intro text fitted
    rw [fitsBehind_line] at fitted ⊢
    have bound := tokenCount_stripSpace_le text
    omega

theorem boundedPieces_eq (content pathPrefix : List Char) (maximum : Nat) :
    boundedPieces content pathPrefix tokenCount maximum =
      if fitsBehind pathPrefix maximum content then .ok [content]
      else do
        let pieces ← cutPieces (fitsBehind pathPrefix maximum) content.length content
        return pieces.filter (· ≠ []) :=
  rfl

theorem boundedPieces_refused {error : ChunkError}
    (refused : boundedPieces content (lineOf start) tokenCount maximum = .error error) :
    ∃ first rest, Remainder (fitsBehind (lineOf start) maximum) content (first :: rest) ∧
      maximum < tokenCount (lineOf start ++ [first]) := by
  rw [boundedPieces_eq] at refused
  split at refused
  · cases refused
  · cases cut : cutPieces (fitsBehind (lineOf start) maximum) content.length content with
    | ok pieces =>
        rw [cut] at refused
        cases refused
    | error other =>
        obtain ⟨first, rest, reached, unfit⟩ := cutPieces_refused cut
        rw [fitsBehind, decide_eq_false_iff_not] at unfit
        exact ⟨first, rest, reached, Nat.not_le.mp unfit⟩

theorem boundedPieces_pieces (filled : content ≠ [] ∨ maximum < tokenCount (lineOf start))
    (returned : boundedPieces content (lineOf start) tokenCount maximum = .ok pieces) :
    PiecesOf content (lineOf start) maximum pieces := by
  rw [boundedPieces_eq] at returned
  split at returned
  · next fitted =>
    cases returned
    constructor
    · intro piece member
      rw [List.mem_singleton.mp member]
      rcases filled with some | full
      · exact some
      · rw [fitsBehind_line] at fitted
        omega
    · intro piece member
      rw [List.mem_singleton.mp member]
      exact of_decide_eq_true fitted
    · simp
  · rw [bind_eq_ok_iff] at returned
    obtain ⟨all, cut, pieces_eq⟩ := returned
    cases pieces_eq
    obtain ⟨fitted, whole⟩ := cutPieces_pieces downward_line (Nat.le_refl _) cut
    constructor
    · intro piece member
      exact of_decide_eq_true (List.mem_filter.mp member).2
    · intro piece member
      exact of_decide_eq_true (fitted piece (List.mem_filter.mp member).1)
    · rw [List.flatten_filter_ne_nil, whole]

/-- An empty content that fits is the one that is returned as it is. -/
theorem boundedSplit_iff_filled :
    BoundedSplit content (lineOf start) maximum ↔
      content ≠ [] ∨ maximum < tokenCount (lineOf start) := by
  constructor
  · intro split
    by_cases empty : content = []
    · right
      apply Nat.not_le.mp
      intro fitted
      have returned : boundedPieces content (lineOf start) tokenCount maximum = .ok [[]] := by
        rw [boundedPieces_eq, empty, if_pos]
        rw [fitsBehind_line]
        exact fitted
      exact (split.returned _ returned).filled [] (List.mem_singleton_self _) rfl
    · exact .inl empty
  · intro filled
    constructor
    · intro fuel enough
      exact cutPieces_fuel _ _ _ enough (Nat.le_refl _)
    · exact fun _ refused => boundedPieces_refused refused
    · exact fun _ returned => boundedPieces_pieces filled returned

end Prefix

/-! ## The chunks -/

/-- The options with `token_count` for the counter. -/
def ChunkOptions.counted (options : ChunkOptions) : ChunkOptions :=
  { options with tokenCounter := tokenCount }

/-- No chunk is over the limit of the embedding model. -/
def ChunksWithinLimit (options : ChunkOptions) (metadata : DocumentMetadata)
    (markdown : List Char) : Prop :=
  ∀ chunks, chunkMarkdown options.counted metadata markdown = .ok chunks →
    ∀ chunk ∈ chunks, chunk.tokenCount ≤ embeddingLimit

theorem sectionPrefix_line (title path : List Char) :
    sectionPrefix title path = lineOf ("passage: ".toList ++ (title ++ '\n' :: path)) := by
  have joined : ∀ label : List Char,
      label ++ (title ++ '\n' :: path ++ '\n' :: []) =
        lineOf (label ++ (title ++ '\n' :: path)) := by
    intro label
    simp [lineOf]
  exact joined _

theorem embeddingText_eq (title path content : List Char) :
    embeddingText title path content = sectionPrefix title path ++ content := by
  have joined : ∀ label : List Char, label ++ (title ++ '\n' :: path ++ '\n' :: content) =
      label ++ (title ++ '\n' :: path ++ '\n' :: []) ++ content := by
    intro label
    simp
  exact joined _

theorem textWindows_filled {text window : List Char} {target overlap maximum : Nat}
    (member : window ∈ textWindows text target overlap maximum) : window ≠ [] :=
  (textWindows_chunkable (LinesStandIn.of_infix List.infix_rfl) window member).1

theorem sectionContents_within {options : ChunkOptions} {title : List Char}
    {part : MarkdownSection} {contents : List (List Char)}
    (cut : sectionContents options.counted title part = .ok contents) :
    ∀ content ∈ contents,
      tokenCount (embeddingText title part.path content) ≤ embeddingLimit := by
  simp only [sectionContents, bind_eq_ok_iff] at cut
  obtain ⟨pieces, mapped, contents_eq⟩ := cut
  cases contents_eq
  intro content found
  rw [List.mem_flatten] at found
  obtain ⟨some, someMember, inside⟩ := found
  obtain ⟨window, windowMember, cutWindow⟩ := mem_of_mapM mapped someMember
  have filled := textWindows_filled windowMember
  rw [sectionPrefix_line] at cutWindow
  have within := (boundedPieces_pieces (.inl filled) cutWindow).within content inside
  rw [embeddingText_eq, sectionPrefix_line]
  exact within

/-- What one turn of the loop adds is counted with its title and its path. -/
theorem addText_tokenCount {options : ChunkOptions} {metadata : DocumentMetadata}
    {source : List UInt8} {state result : ChunkState} {text : MarkdownSection × List Char}
    (added : state.addText options metadata source text = .ok result) :
    ∃ chunk, result.chunks = state.chunks ++ [chunk] ∧
      chunk.tokenCount =
        options.tokenCounter (embeddingText metadata.title text.1.path text.2) := by
  simp only [ChunkState.addText, ChunkState.add] at added
  split at added
  · cases added
  · simp only [bind_eq_ok_iff] at added
    obtain ⟨locator, built, result_eq⟩ := added
    cases result_eq
    exact ⟨_, rfl, rfl⟩

theorem foldlM_addText_within {options : ChunkOptions} {metadata : DocumentMetadata}
    {source : List UInt8} {texts : List (MarkdownSection × List Char)}
    (within : ∀ text ∈ texts,
      tokenCount (embeddingText metadata.title text.1.path text.2) ≤ embeddingLimit) :
    ∀ {state result : ChunkState},
      texts.foldlM (ChunkState.addText options.counted metadata source) state = .ok result →
        (∀ chunk ∈ state.chunks, chunk.tokenCount ≤ embeddingLimit) →
          ∀ chunk ∈ result.chunks, chunk.tokenCount ≤ embeddingLimit := by
  induction texts with
  | nil =>
      intro state result added kept
      cases added
      exact kept
  | cons text texts induction =>
      intro state result added kept
      rw [List.foldlM_cons, bind_eq_ok_iff] at added
      obtain ⟨middle, turned, added⟩ := added
      apply induction (fun other member => within other (List.mem_cons_of_mem _ member)) added
      obtain ⟨new, chunks_eq, count_eq⟩ := addText_tokenCount turned
      intro chunk member
      rw [chunks_eq, List.mem_append] at member
      rcases member with old | last
      · exact kept chunk old
      · rw [List.mem_singleton.mp last, count_eq]
        exact within text List.mem_cons_self

theorem chunkMarkdown_within (options : ChunkOptions) (metadata : DocumentMetadata)
    (markdown : List Char) : ChunksWithinLimit options metadata markdown := by
  intro chunks chunked
  rw [chunkMarkdown_eq_ok_iff] at chunked
  obtain ⟨texts, cut, state, added, chunks_eq⟩ := chunked
  rw [← chunks_eq]
  apply foldlM_addText_within _ added fun chunk member => absurd member List.not_mem_nil
  intro text member
  obtain ⟨_, contents, cutPart, found⟩ := (mem_sectionTexts cut).mp member
  exact sectionContents_within cutPart text.2 found

/-- The split keeps to its contract exactly where it is not given an empty content that fits, and
no chunk of a document is over the limit. -/
theorem boundedSplit_iff (content start : List Char) (maximum : Nat) (options : ChunkOptions)
    (metadata : DocumentMetadata) (markdown : List Char) :
    (BoundedSplit content (lineOf start) maximum ↔
      content ≠ [] ∨ maximum < tokenCount (lineOf start)) ∧
        ChunksWithinLimit options metadata markdown :=
  ⟨boundedSplit_iff_filled, chunkMarkdown_within options metadata markdown⟩

theorem empty_content_is_a_piece :
    boundedPieces [] (lineOf []) tokenCount 1 = .ok [[]] ∧
      ¬BoundedSplit [] (lineOf []) 1 := by
  have returned : boundedPieces [] (lineOf []) tokenCount 1 = .ok [[]] := rfl
  apply And.intro returned
  intro split
  exact (split.returned _ returned).filled [] (List.mem_singleton_self _) rfl

end SupportGuard
