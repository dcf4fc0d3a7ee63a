import SupportGuard.Rag.BoundedPieces
import SupportGuard.Rag.SupportingSpans

/-! # What a supporting span cites

A chosen sentence has a term of the query and is not blank, and what is cited of a window that
is not blank is a part of the chunk, to the byte. So the selection fails only where nothing is
chosen and the window of the first sentence is blank. -/

namespace SupportGuard

open Foundation Fallible

namespace SupportingSpans

/-! ## Blank texts -/

def Blank (text : List Char) : Prop :=
  ∀ character ∈ text, isTextSpace character = true

theorem Blank.sublist {part text : List Char} (blank : Blank text) (inside : part.Sublist text) :
    Blank part :=
  fun character member => blank character (inside.subset member)

theorem blank_of_dropWhile {text : List Char} (blank : Blank (text.dropWhile isTextSpace)) :
    Blank text := by
  induction text with
  | nil => exact blank
  | cons character text induction =>
      rw [List.dropWhile_cons] at blank
      split at blank
      · next space => exact List.forall_mem_cons.mpr ⟨space, induction blank⟩
      · exact blank

theorem stripSpace_eq_nil_iff (text : List Char) : stripSpace text = [] ↔ Blank text := by
  rw [stripSpace, List.reverse_eq_nil_iff, List.dropWhile_eq_nil_iff]
  constructor
  · intro blank
    apply blank_of_dropWhile
    exact fun character member => blank character (List.mem_reverse.mpr member)
  · intro blank character member
    exact blank character ((List.dropWhile_sublist _).subset (List.mem_reverse.mp member))

/-- A character of ASCII that can be seen. -/
def isVisible (character : Char) : Bool :=
  0x21 ≤ character.toNat && character.toNat ≤ 0x7E

variable {character : Char}

theorem visible_of_word (word : isWordCharacter character = true) :
    isVisible character = true := by
  have bounds := wordCharacter_visible word
  rw [isVisible, decide_eq_true bounds.1, decide_eq_true bounds.2]
  rfl

theorem visible_changes (visible : isVisible character = true) :
    isVisible character.toLower = true ∧ isVisible (foldLetter character) = true := by
  have codes : ∀ code ∈ List.range' 0x21 0x5E, isVisible (Char.ofNat code).toLower = true ∧
      isVisible (foldLetter (Char.ofNat code)) = true := by
    decide +kernel
  rw [isVisible, Bool.and_eq_true, decide_eq_true_eq, decide_eq_true_eq] at visible
  rw [← Char.ofNat_toNat character]
  apply codes
  rw [List.mem_range'_1]
  omega

/-- What is so of every white space character. -/
theorem of_space (holds : Char → Prop)
    (codes : ∀ code ∈ [0x20, 0x85, 0xA0, 0x1680, 0x2028, 0x2029, 0x202F, 0x205F, 0x3000] ++
      List.range' 0x09 5 ++ List.range' 0x1C 4 ++ List.range' 0x2000 11, holds (Char.ofNat code))
    (space : isTextSpace character = true) : holds character := by
  rw [← Char.ofNat_toNat character]
  apply codes
  simp only [isTextSpace, Bool.or_eq_true, decide_eq_true_eq, Bool.and_eq_true, List.mem_cons,
    List.not_mem_nil, or_false] at space
  simp only [List.mem_append, List.mem_range'_1, List.mem_cons, List.not_mem_nil, or_false]
  omega

theorem not_visible_of_space (space : isTextSpace character = true) :
    isVisible character = false ∧ isVisible (foldLetter character) = false :=
  of_space (fun other => isVisible other = false ∧ isVisible (foldLetter other) = false)
    (by decide +kernel) space

theorem toLower_space (space : isTextSpace character = true) :
    character.toLower = character :=
  of_space (fun other => other.toLower = other) (by decide +kernel) space

theorem not_space_of_visible (visible : isVisible character = true) :
    isTextSpace character = false := by
  apply Bool.eq_false_iff.mpr
  intro space
  rw [(not_visible_of_space space).1] at visible
  cases visible

/-! ## Terms -/

/-- The runs are not empty and made of characters of the text that are of the kind. -/
theorem mem_runsFrom {holds : Char → Bool} {good : Char → Prop} {run : List Char}
    (text : List Char) (goods : ∀ character ∈ text, holds character = true → good character) :
    ∀ {current : List Char}, (∀ character ∈ current, good character) →
      run ∈ runsFrom holds current text → run ≠ [] ∧ ∀ character ∈ run, good character := by
  have finished : ∀ {current : List Char}, (∀ character ∈ current, good character) →
      run ∈ finishRun current → run ≠ [] ∧ ∀ character ∈ run, good character := by
    intro current held member
    rw [finishRun] at member
    split at member
    · cases member
    · next filled =>
      cases List.mem_singleton.mp member
      exact ⟨filled, held⟩
  induction text with
  | nil =>
      intro current
      exact finished
  | cons character text induction =>
      have goods' : ∀ other ∈ text, holds other = true → good other :=
        fun other among => goods other (List.mem_cons_of_mem _ among)
      intro current held member
      rw [runsFrom] at member
      split at member
      · next here =>
        apply induction goods' _ member
        have first := goods character List.mem_cons_self here
        exact List.forall_mem_append.mpr ⟨held, List.forall_mem_singleton.mpr first⟩
      · rcases List.mem_append.mp member with ended | rest
        · exact finished held ended
        · exact induction goods' (fun _ none => absurd none List.not_mem_nil) rest

theorem mem_runs {holds : Char → Bool} {good : Char → Prop} {text run : List Char}
    (goods : ∀ character ∈ text, holds character = true → good character)
    (member : run ∈ runs holds text) : run ≠ [] ∧ ∀ character ∈ run, good character :=
  mem_runsFrom text goods (fun _ none => absurd none List.not_mem_nil) member

/-- A term that no blank text has. -/
def Shows (term : List Char) : Prop :=
  ∃ character ∈ term, isTextSpace character = false

theorem Shows.not_within_blank {term text : List Char} (shows : Shows term) (blank : Blank text) :
    ¬term <:+: text := by
  intro inside
  obtain ⟨character, member, shown⟩ := shows
  rw [blank character (inside.subset member)] at shown
  cases shown

theorem shows_of_forall {term : List Char} (filled : term ≠ [])
    (each : ∀ character ∈ term, isTextSpace character = false) : Shows term := by
  cases term with
  | nil => exact absurd rfl filled
  | cons first rest => exact ⟨first, List.mem_cons_self, each first List.mem_cons_self⟩

theorem latinTerms_visible {text term : List Char} (member : term ∈ latinTerms text) :
    term ≠ [] ∧ ∀ character ∈ term.map Char.toLower, isVisible character = true := by
  obtain ⟨filled, words⟩ := mem_runs (fun _ _ word => visible_of_word word)
    (List.mem_filter.mp member).1
  apply And.intro filled
  intro lower among
  obtain ⟨character, inside, lower_eq⟩ := List.mem_map.mp among
  rw [← lower_eq]
  exact (visible_changes (words character inside)).1

theorem cjkTerms_show {query run term : List Char} (among : run ∈ runs isCjk query)
    (member : term ∈ cjkTerms run) : Shows term := by
  have shown : ∀ character ∈ query, isCjk character = true → isTextSpace character = false := by
    intro character _ range
    rw [isCjk, Bool.and_eq_true, decide_eq_true_eq, decide_eq_true_eq] at range
    simp only [isTextSpace, Bool.or_eq_false_iff, Bool.and_eq_false_iff, decide_eq_false_iff_not,
      List.mem_cons, List.not_mem_nil, or_false]
    omega
  simp only [cjkTerms, List.mem_flatMap, List.mem_map, List.mem_range'_1, List.mem_range] at member
  obtain ⟨width, wide, index, within, term_eq⟩ := member
  rw [← term_eq]
  apply shows_of_forall
  · apply List.ne_nil_of_length_pos
    rw [length_textSlice (by omega)]
    omega
  · intro character inside
    exact (mem_runs shown among).2 character (List.mem_of_mem_take (List.mem_of_mem_drop inside))

theorem lexicalQueryTerms_show {query term : List Char}
    (member : term ∈ lexicalQueryTerms query) : Shows term := by
  rw [lexicalQueryTerms, List.mem_dedup, List.mem_append, List.mem_map, List.mem_flatMap] at member
  rcases member with latin | cjk
  · obtain ⟨raw, among, term_eq⟩ := latin
    obtain ⟨filled, visible⟩ := latinTerms_visible among
    rw [← term_eq]
    apply shows_of_forall (mt List.map_eq_nil_iff.mp filled)
    exact fun character inside => not_space_of_visible (visible character inside)
  · obtain ⟨run, among, inside⟩ := cjk
    exact cjkTerms_show among inside

/-- An anchor begins with a visible character. -/
def Anchors (anchor : List Char) : Prop :=
  ∃ first rest, anchor = first :: rest ∧ isVisible first = true

theorem anchors_of_forall {anchor : List Char} (filled : anchor ≠ [])
    (each : ∀ character ∈ anchor, isVisible character = true) : Anchors anchor := by
  cases anchor with
  | nil => exact absurd rfl filled
  | cons first rest => exact ⟨first, rest, rfl, each first List.mem_cons_self⟩

theorem anchorsOfTerm_anchor {term anchor : List Char} (filled : term ≠ [])
    (visible : ∀ character ∈ term, isVisible character = true)
    (member : anchor ∈ anchorsOfTerm term) : Anchors anchor := by
  have whole := anchors_of_forall filled visible
  rw [anchorsOfTerm, List.mem_append] at member
  rcases member with status | named
  · split at status
    · rw [List.mem_singleton.mp status]
      exact whole
    · cases status
  · split at named
    · rcases List.mem_cons.mp named with same | component
      · rw [same]
        exact whole
      · obtain ⟨some, characters⟩ := mem_runs (fun character among _ => visible character among)
          (List.mem_filter.mp component).1
        exact anchors_of_forall some characters
    · cases named

theorem queryAnchorTerms_anchor {query anchor : List Char}
    (member : anchor ∈ queryAnchorTerms query) : Anchors anchor := by
  rw [queryAnchorTerms, List.mem_dedup, List.mem_flatMap] at member
  obtain ⟨term, among, inside⟩ := member
  obtain ⟨filled, visible⟩ := latinTerms_visible among
  exact anchorsOfTerm_anchor (mt List.map_eq_nil_iff.mp filled) visible inside

/-! ## Scores of a blank sentence -/

/-- What `str.casefold` does not change: white space has no case. -/
def KeepsBlank (tables : TextTables) : Prop :=
  ∀ text, Blank text → tables.casefold text = text

section Scores

variable {tables : TextTables} {content query : List Char}

theorem matchScore_blank (keeps : KeepsBlank tables) {value : List Char} (blank : Blank value)
    {terms : List (List Char)} (shows : ∀ term ∈ terms, Shows term)
    (documentFrequency : List Char → Nat) (sentenceCount : Nat) :
    matchScore tables value terms documentFrequency sentenceCount = 0 := by
  simp only [matchScore, keeps value blank]
  rw [List.sum_eq_zero_iff_forall_eq_nat]
  intro score member
  obtain ⟨term, among, score_eq⟩ := List.mem_map.mp member
  rw [if_neg ((shows term among).not_within_blank blank)] at score_eq
  exact score_eq.symm

/-- A match behind which something must not stand begins with the character that comes first. -/
theorem Derives.first_character {subject : Subject} {behind items : List ClassItem}
    {rest : Regex} {start stop : Nat} {new : Captures}
    (derived : Derives subject (.seq (.notBehind behind) (.seq (.oneOf items) rest)) start stop
      new) :
    ∃ character, subject.text[start]? = some character ∧
      items.any (ClassItem.holds character) = true := by
  cases derived with
  | seq guard later =>
      cases guard
      cases later with
      | seq here _ =>
          cases here with
          | oneOf there holds => exact ⟨_, there, holds⟩

theorem anchorPattern_blank {anchor : List Char} (anchors : Anchors anchor)
    {isWord : Char → Bool} {text : List Char} (blank : Blank text) :
    (anchorPattern anchor).found isWord text = false := by
  obtain ⟨first, rest, anchor_eq, visible⟩ := anchors
  apply Bool.eq_false_iff.mpr
  intro found
  obtain ⟨place, searched⟩ := Option.isSome_iff_exists.mp found
  have derived := (Regex.search_of searched).derived
  rw [anchor_eq, anchorPattern, List.foldr_cons] at derived
  obtain ⟨character, there, holds⟩ := Derives.first_character derived
  have space := blank character (List.mem_of_getElem? there)
  have unseen := (not_visible_of_space space).2
  have seen := (visible_changes visible).2
  rw [List.any_cons, List.any_nil, Bool.or_false, ClassItem.holds, decide_eq_true_eq] at holds
  rw [holds, seen] at unseen
  cases unseen

theorem anchorScore_blank (keeps : KeepsBlank tables) {value : List Char} (blank : Blank value)
    {anchors : List (List Char)} (each : ∀ anchor ∈ anchors, Anchors anchor) :
    anchorScore tables value anchors = 0 := by
  simp only [anchorScore, keeps value blank]
  rw [List.sum_eq_zero_iff_forall_eq_nat]
  intro score member
  obtain ⟨anchor, among, score_eq⟩ := List.mem_map.mp member
  rw [anchorPattern_blank (each anchor among) blank] at score_eq
  exact score_eq.symm

end Scores

/-! ## Sentences -/

/-- Where the sentence that is being read begins. -/
def SentenceMode.start (position : Nat) : SentenceMode → Nat
  | .between => position
  | .sentence start => start
  | .line start => start

/-- The sentence that is being read has a character. -/
def SentenceMode.Begun (position : Nat) : SentenceMode → Prop
  | .between => True
  | .sentence start => start < position
  | .line start => start < position

/-- The sentences stand in the text one after the other, and none is empty. -/
def InOrder (low high : Nat) : List Span → Prop
  | [] => True
  | span :: later => low ≤ span.1 ∧ span.1 < span.2 ∧ span.2 ≤ high ∧ InOrder span.2 high later

theorem InOrder.from_lower {low lower high : Nat} {spans : List Span}
    (order : InOrder low high spans) (bound : lower ≤ low) : InOrder lower high spans := by
  cases spans with
  | nil => trivial
  | cons span later => exact ⟨Nat.le_trans bound order.1, order.2⟩

theorem InOrder.drop {low high : Nat} {spans : List Span} (order : InOrder low high spans)
    (count : Nat) : InOrder low high (spans.drop count) := by
  induction spans generalizing low count with
  | nil => exact (List.drop_nil (i := count)).symm ▸ trivial
  | cons span later induction =>
      cases count with
      | zero => exact order
      | succ count =>
          obtain ⟨start, filled, _, rest⟩ := order
          exact (induction rest count).from_lower (by omega)

theorem InOrder.take {low high : Nat} {spans : List Span} (order : InOrder low high spans)
    (count : Nat) : InOrder low high (spans.take count) := by
  induction spans generalizing low count with
  | nil => exact (List.take_nil (i := count)).symm ▸ trivial
  | cons span later induction =>
      cases count with
      | zero => trivial
      | succ count => exact ⟨order.1, order.2.1, order.2.2.1, induction order.2.2.2 count⟩

theorem sentencesFrom_inOrder (text : List Char) :
    ∀ (mode : SentenceMode) (position : Nat), mode.Begun position →
      InOrder (mode.start position) (position + text.length)
        (sentencesFrom mode position text) := by
  induction text with
  | nil =>
      intro mode position begun
      cases mode with
      | between => trivial
      | sentence start => exact ⟨Nat.le_refl _, begun, Nat.le_refl _, trivial⟩
      | line start => exact ⟨Nat.le_refl _, begun, Nat.le_refl _, trivial⟩
  | cons character text induction =>
      intro mode position begun
      have length : position + (character :: text).length = position + 1 + text.length := by
        rw [List.length_cons]
        omega
      rw [length]
      have after : InOrder (position + 1) (position + 1 + text.length)
          (sentencesFrom .between (position + 1) text) :=
        induction .between (position + 1) trivial
      have fromHere := after.from_lower (Nat.le_succ position)
      cases mode with
      | between =>
          rw [sentencesFrom]
          split
          · exact fromHere
          · split
            · exact induction (.line position) _ (Nat.lt_succ_self position)
            · exact induction (.sentence position) _ (Nat.lt_succ_self position)
      | sentence start =>
          have begun : start < position := begun
          rw [sentencesFrom]
          split
          · exact ⟨Nat.le_refl _, begun, by omega, fromHere⟩
          · split
            · exact ⟨Nat.le_refl _, by omega, by omega, after⟩
            · exact induction (.sentence start) _ (Nat.lt_succ_of_lt begun)
      | line start =>
          have begun : start < position := begun
          rw [sentencesFrom]
          split
          · exact ⟨Nat.le_refl _, begun, by omega, fromHere⟩
          · exact induction (.line start) _ (Nat.lt_succ_of_lt begun)

theorem sentences_inOrder (content : List Char) :
    InOrder 0 content.length (sentences content) := by
  have order : InOrder 0 (0 + content.length) (sentences content) :=
    sentencesFrom_inOrder content .between 0 trivial
  rw [Nat.zero_add] at order
  exact order

/-! ## Windows -/

/-- The window goes on to the end of a sentence that follows, and no further than the text. -/
theorem extendWindow_within {content : List Char} {start high : Nat} {later : List Span} :
    ∀ {stop : Nat}, stop ≤ high → InOrder stop high later →
      stop ≤ extendWindow content start stop later ∧
        extendWindow content start stop later ≤ high := by
  induction later with
  | nil => exact fun within _ => ⟨Nat.le_refl _, within⟩
  | cons candidate later induction =>
      intro stop within order
      obtain ⟨low, filled, bound, rest⟩ := order
      rw [extendWindow]
      split
      · exact ⟨Nat.le_refl _, within⟩
      · split
        · exact ⟨Nat.le_refl _, within⟩
        · obtain ⟨further, inside⟩ := induction bound rest
          exact ⟨by omega, inside⟩

/-- The window has the chosen sentence in it. -/
theorem boundedContextWindow_within (content : List Char) {low high : Nat} {chosen : Span}
    {later : List Span} (order : InOrder low high (chosen :: later)) :
    (boundedContextWindow content chosen later).1 = chosen.1 ∧
      chosen.2 ≤ (boundedContextWindow content chosen later).2 ∧
      (boundedContextWindow content chosen later).2 ≤ high := by
  obtain ⟨_, _, bound, rest⟩ := order
  rw [boundedContextWindow]
  split
  · exact ⟨rfl, Nat.le_refl _, bound⟩
  · exact ⟨rfl, extendWindow_within bound (rest.take 2)⟩

/-! ## Citations -/

theorem spanText_blank {content : List Char} {part window : Span} (start : window.1 = part.1)
    (stop : part.2 ≤ window.2) (blank : Blank (spanText content window)) :
    Blank (spanText content part) := by
  apply blank.sublist
  rw [spanText, spanText, textSlice, textSlice, start]
  exact (List.take_sublist_take_left stop).drop part.1

/-- What is cited of a window stands in the content at the bytes that go with it. -/
theorem citeWindow_splits {content : List Char} {window : Span} (ordered : window.1 ≤ window.2)
    (within : window.2 ≤ content.length) :
    ∃ before after, content = before ++ stripSpace (spanText content window) ++ after ∧
      citeWindow content window = (stripSpace (spanText content window),
        (JsonText.utf8 before).length, (JsonText.utf8 before).length +
          (JsonText.utf8 (stripSpace (spanText content window))).length) := by
  generalize raw_eq : spanText content window = raw
  obtain ⟨trail, rest_eq⟩ : stripSpace raw <+: raw.dropWhile isTextSpace :=
    List.rdropWhile_prefix isTextSpace (raw.dropWhile isTextSpace)
  have parts := List.takeWhile_append_dropWhile (p := isTextSpace) (l := raw)
  have whole : content = content.take window.1 ++ raw ++ content.drop window.2 := by
    have start := List.take_append_drop window.1 (content.take window.2)
    rw [List.take_take, Nat.min_eq_left ordered] at start
    rw [← raw_eq, spanText, textSlice, start, List.take_append_drop]
  have split : content = content.take window.1 ++ raw.takeWhile isTextSpace ++ stripSpace raw ++
      (trail ++ content.drop window.2) := by
    rw [← parts, ← rest_eq] at whole
    simpa only [List.append_assoc] using whole
  apply Exists.intro (content.take window.1 ++ raw.takeWhile isTextSpace)
  apply Exists.intro (trail ++ content.drop window.2)
  apply And.intro split
  have lengths := congrArg List.length parts
  rw [List.length_append] at lengths
  have place : window.1 + raw.length - (raw.dropWhile isTextSpace).length =
      (content.take window.1 ++ raw.takeWhile isTextSpace).length := by
    rw [List.length_append, List.length_take]
    omega
  have taken : ∀ before after, content = before ++ after → content.take before.length = before := by
    intro before after content_eq
    rw [content_eq, List.take_left]
  rw [List.append_assoc _ (stripSpace raw)] at split
  simp only [citeWindow, raw_eq, place, taken _ _ split]

theorem byteSpan_middle (before middle after : List UInt8) :
    SourceLocatorV1.byteSpan (before ++ middle ++ after) before.length
      (before.length + middle.length) = middle := by
  rw [SourceLocatorV1.byteSpan, ← List.length_append, List.take_left, List.drop_left]

/-! ## The selection -/

/-- The span is a part of the chunk, to the byte. -/
structure SupportingSpan.Cites (span : SupportingSpan) (document : List UInt8) (content : List Char)
    (locator : SourceLocator) : Prop where
  part : span.locator.PartOf locator document (JsonText.utf8 span.text)
  filled : span.text ≠ []
  within : span.text <:+: content

/-- The selection returns a span that cites the chunk. -/
def SelectsCitation (tables : TextTables) (document : List UInt8) (content : List Char)
    (locator : SourceLocator) (query : List Char) : Prop :=
  ∃ span, selectSupportingSpan tables { content, sourceLocator := some locator } query = .ok span ∧
    span.Cites document content locator

section Selection

variable {tables : TextTables} {document : List UInt8} {content query : List Char}
  {locator : SourceLocator}

theorem selects_of_filled {sentence : Span} {later : List Span}
    (resolves : locator.resolve document = .ok (JsonText.utf8 content))
    (chosen : (sentences content).drop ((chosenSentence tables content query).getD 0) =
      sentence :: later)
    (filled : ¬Blank (spanText content (boundedContextWindow content sentence later))) :
    SelectsCitation tables document content locator query := by
  have order := (sentences_inOrder content).drop ((chosenSentence tables content query).getD 0)
  rw [chosen] at order
  obtain ⟨start, stop, within⟩ := boundedContextWindow_within content order
  have ordered : (boundedContextWindow content sentence later).1 ≤
      (boundedContextWindow content sentence later).2 := by
    rw [start]
    exact Nat.le_trans (Nat.le_of_lt order.2.1) stop
  obtain ⟨before, after, content_eq, cited⟩ := citeWindow_splits ordered within
  generalize text_eq : stripSpace (spanText content
    (boundedContextWindow content sentence later)) = text at content_eq cited
  have text_filled : text ≠ [] := by
    intro empty
    rw [← text_eq] at empty
    exact filled ((stripSpace_eq_nil_iff _).mp empty)
  have bytes : 0 < (JsonText.utf8 text).length :=
    List.length_pos_iff.mpr (utf8_ne_nil text_filled)
  have split : JsonText.utf8 content =
      JsonText.utf8 before ++ JsonText.utf8 text ++ JsonText.utf8 after := by
    rw [content_eq, utf8_append, utf8_append]
  have inside : (JsonText.utf8 before).length + (JsonText.utf8 text).length ≤
      (JsonText.utf8 content).length := by
    rw [split, List.length_append, List.length_append]
    omega
  obtain ⟨part, returned, partOf⟩ :=
    SourceLocator.subspan_returns resolves (Nat.lt_add_of_pos_right bytes) inside
  rw [split, byteSpan_middle] at partOf
  rw [SelectsCitation, selectSupportingSpan]
  simp only [chosen, cited, returned]
  exact ⟨_, rfl, partOf, text_filled, before, after, content_eq.symm⟩

theorem not_selects_of_blank {sentence : Span} {later : List Span}
    (resolves : locator.resolve document = .ok (JsonText.utf8 content))
    (chosen : (sentences content).drop ((chosenSentence tables content query).getD 0) =
      sentence :: later)
    (blank : Blank (spanText content (boundedContextWindow content sentence later))) :
    selectSupportingSpan tables { content, sourceLocator := some locator } query =
      .error .invalidRelativeSpan := by
  have text_eq : stripSpace (spanText content (boundedContextWindow content sentence later)) = [] :=
    (stripSpace_eq_nil_iff _).mpr blank
  have cited : ∃ place, citeWindow content (boundedContextWindow content sentence later) =
      ([], place, place) := by
    apply Exists.intro _
    rw [citeWindow, text_eq]
    rfl
  obtain ⟨place, cited⟩ := cited
  rw [selectSupportingSpan]
  simp only [chosen, cited, SourceLocator.subspan_refuses resolves (Nat.le_refl place)]
  rfl

end Selection

/-- Whether some sentence has a term or an anchor of the query. -/
def SpeaksOf (tables : TextTables) (content query : List Char) : Prop :=
  ∃ score ∈ sentenceScores tables content query, 0 < score.1 ∨ 0 < score.2

/-- The window of the first sentence is not blank. -/
def OpensWithText (content : List Char) : Prop :=
  ∃ first later, sentences content = first :: later ∧
    ¬Blank (spanText content (boundedContextWindow content first later))

section Selection

variable {tables : TextTables} {document : List UInt8} {content query : List Char}
  {locator : SourceLocator}

theorem chosenSentence_eq_none (silent : ¬SpeaksOf tables content query) :
    chosenSentence tables content query = none := by
  rw [chosenSentence, if_neg]
  intro some
  obtain ⟨score, among, positive⟩ := List.any_eq_true.mp some
  rw [Bool.or_eq_true, decide_eq_true_eq, decide_eq_true_eq] at positive
  exact silent ⟨score, among, positive⟩

theorem sentenceScores_eq (keeps : KeepsBlank tables) (content query : List Char) :
    ∃ score : List Char → Nat × Nat,
      sentenceScores tables content query =
          ((sentences content).map (spanText content)).map score ∧
        ∀ text, Blank text → score text = (0, 0) := by
  apply Exists.intro _
  constructor
  · rfl
  · intro text blank
    rw [anchorScore_blank keeps blank fun _ among => queryAnchorTerms_anchor among,
      matchScore_blank keeps blank fun _ among => lexicalQueryTerms_show among]

/-- The chosen sentence has a score of its own, so it is not blank. -/
theorem chosenSentence_filled (keeps : KeepsBlank tables)
    (speaks : SpeaksOf tables content query) :
    ∃ index sentence later, chosenSentence tables content query = some index ∧
      (sentences content).drop index = sentence :: later ∧
      ¬Blank (spanText content sentence) := by
  obtain ⟨score, scores_eq, zero⟩ := sentenceScores_eq keeps content query
  obtain ⟨greatest, among, positive⟩ := speaks
  have some : (sentenceScores tables content query).any
      (fun score => 0 < score.1 || 0 < score.2) = true := by
    apply List.any_eq_true.mpr
    exact ⟨greatest, among, by simpa using positive⟩
  have chosen_eq := chosenSentence.eq_1 tables content query
  simp only [some, if_true] at chosen_eq
  obtain ⟨place, there⟩ := List.mem_iff_getElem?.mp among
  have placed : place ∈ List.range (sentenceScores tables content query).length := by
    rw [List.mem_range]
    exact (List.getElem?_eq_some_iff.mp there).1
  cases chosen : chosenSentence tables content query with
  | none =>
      rw [chosen] at chosen_eq
      rw [List.argmax_eq_none.mp chosen_eq.symm] at placed
      cases placed
  | some index =>
      rw [chosen] at chosen_eq
      have bound := List.le_of_mem_argmax placed chosen_eq.symm
      have within := List.mem_range.mp (List.argmax_mem chosen_eq.symm)
      rw [scores_eq, List.length_map, List.length_map] at within
      apply Exists.intro index
      apply Exists.intro (sentences content)[index]
      apply Exists.intro ((sentences content).drop (index + 1))
      apply And.intro rfl
      apply And.intro (List.drop_eq_getElem_cons within)
      intro blank
      have least : (sentenceScores tables content query).getD index (0, 0) = (0, 0) := by
        rw [scores_eq, List.getD_eq_getElem?_getD, List.getElem?_map, List.getElem?_map,
          List.getElem?_eq_getElem within, Option.map_some, Option.map_some, Option.getD_some,
          zero _ blank]
      have reached : (sentenceScores tables content query).getD place (0, 0) = greatest := by
        rw [List.getD_eq_getElem?_getD, there, Option.getD_some]
      rw [least, reached, Prod.Lex.toLex_le_toLex] at bound
      simp only at bound
      omega

/-- For a chunk that is not blank, the selection cites it if and only if a sentence speaks of the
query or the window of the first sentence is not blank. -/
theorem selectsCitation_iff (keeps : KeepsBlank tables)
    (resolves : locator.resolve document = .ok (JsonText.utf8 content)) :
    SelectsCitation tables document content locator query ↔
      SpeaksOf tables content query ∨ OpensWithText content := by
  constructor
  · intro selects
    by_cases speaks : SpeaksOf tables content query
    · exact .inl speaks
    · right
      obtain ⟨span, selected, _⟩ := selects
      have none := chosenSentence_eq_none speaks
      cases read : sentences content with
      | nil =>
          rw [selectSupportingSpan] at selected
          simp only [none, read, Option.getD_none, List.drop_zero] at selected
          cases selected
      | cons first later =>
          apply Exists.intro first
          apply Exists.intro later
          apply And.intro read
          intro blank
          have chosen : (sentences content).drop ((chosenSentence tables content query).getD 0) =
              first :: later := by
            rw [none, Option.getD_none, List.drop_zero, read]
          rw [not_selects_of_blank resolves chosen blank] at selected
          cases selected
  · intro either
    by_cases speaks : SpeaksOf tables content query
    · obtain ⟨index, sentence, later, chosen, dropped, filled⟩ := chosenSentence_filled keeps speaks
      have order := (sentences_inOrder content).drop index
      rw [dropped] at order
      obtain ⟨start, stop, _⟩ := boundedContextWindow_within content order
      apply selects_of_filled resolves
      · rw [chosen, Option.getD_some]
        exact dropped
      · exact fun blank => filled (spanText_blank start stop blank)
    · rcases either with speaking | opens
      · exact absurd speaking speaks
      · obtain ⟨first, later, read, filled⟩ := opens
        apply selects_of_filled resolves
        · rw [chosenSentence_eq_none speaks, Option.getD_none, List.drop_zero]
          exact read
        · exact filled

end Selection

/-! ## Contents that begin with a character -/

/-- What is being read ends as a sentence of its own. -/
theorem sentencesFrom_begun (text : List Char) :
    ∀ (start position : Nat),
      (∃ stop later, position ≤ stop ∧
          sentencesFrom (.sentence start) position text = (start, stop) :: later) ∧
        ∃ stop later, position ≤ stop ∧
          sentencesFrom (.line start) position text = (start, stop) :: later := by
  induction text with
  | nil =>
      intro start position
      exact ⟨⟨position, [], Nat.le_refl _, rfl⟩, ⟨position, [], Nat.le_refl _, rfl⟩⟩
  | cons character text induction =>
      intro start position
      obtain ⟨⟨stop, later, bound, sentence⟩, ⟨lineStop, lineLater, lineBound, line⟩⟩ :=
        induction start (position + 1)
      rw [sentencesFrom, sentencesFrom]
      constructor
      · split
        · exact ⟨position, _, Nat.le_refl _, rfl⟩
        · split
          · exact ⟨position + 1, _, Nat.le_succ _, rfl⟩
          · exact ⟨stop, later, Nat.le_of_succ_le bound, sentence⟩
      · split
        · exact ⟨position, _, Nat.le_refl _, rfl⟩
        · exact ⟨lineStop, lineLater, Nat.le_of_succ_le lineBound, line⟩

/-- The contents that the chunker makes have no white space before them. -/
theorem opensWithText_of_head {rest : List Char} (seen : isTextSpace character = false) :
    OpensWithText (character :: rest) := by
  have notLine : character ≠ '\n' := by
    intro line
    rw [line] at seen
    cases seen
  obtain ⟨⟨stop, later, bound, sentence⟩, ⟨lineStop, lineLater, lineBound, line⟩⟩ :=
    sentencesFrom_begun rest 0 1
  have first : ∃ stop later, 1 ≤ stop ∧ sentences (character :: rest) = (0, stop) :: later := by
    rw [sentences, sentencesFrom, if_neg notLine]
    split
    · exact ⟨lineStop, lineLater, lineBound, line⟩
    · exact ⟨stop, later, bound, sentence⟩
  obtain ⟨stop, later, bound, read⟩ := first
  have order := sentences_inOrder (character :: rest)
  rw [read] at order
  obtain ⟨start, within, _⟩ :=
    boundedContextWindow_within (character :: rest) order
  apply Exists.intro (0, stop)
  apply Exists.intro later
  apply And.intro read
  intro blank
  have member : character ∈ spanText (character :: rest)
      (boundedContextWindow (character :: rest) (0, stop) later) := by
    rw [spanText, textSlice, start, List.drop_zero]
    obtain ⟨more, more_eq⟩ := Nat.exists_eq_add_of_le (Nat.le_trans bound within)
    rw [more_eq, Nat.add_comm, List.take_succ_cons]
    exact List.mem_cons_self
  rw [blank character member] at seen
  cases seen

/-! ## A blank first sentence -/

theorem plainTables_keepsBlank : KeepsBlank plainTables := by
  intro text blank
  have same : ∀ character ∈ text, character.toLower = id character :=
    fun character member => toLower_space (blank character member)
  have folded : text.map Char.toLower = text := by
    rw [List.map_congr_left same, List.map_id]
  exact folded

theorem exists_locator (content : List Char) (filled : content ≠ []) :
    ∃ locator, SourceLocator.resolve (JsonText.utf8 content) locator =
      .ok (JsonText.utf8 content) := by
  have bytes : 0 < (JsonText.utf8 content).length := List.length_pos_iff.mpr (utf8_ne_nil filled)
  obtain ⟨locator, built⟩ : ∃ locator, SourceLocatorV1.build "guide" "1" (JsonText.utf8 content) 0
      (JsonText.utf8 content).length = .ok locator :=
    SourceLocatorV1.build_eq_ok_iff.mpr ⟨bytes, Nat.le_refl _⟩
  obtain ⟨_, _, resolves⟩ := SourceLocatorV1.resolve_of_build built
  rw [SourceLocatorV1.byteSpan, List.take_length, List.drop_zero] at resolves
  apply Exists.intro (.v1 locator)
  rw [SourceLocator.resolve, resolves]
  rfl

/-- The first line is blank, and the last one speaks of refunds. -/
def refundLines : List Char :=
  " \nKeys expire.\nRefunds wait.".toList

/-- The query finds its line, and without a query the first line that is not blank will do. -/
theorem selectsCitation_refundLines :
    (∃ locator, SelectsCitation plainTables (JsonText.utf8 refundLines) refundLines locator
      "refunds".toList) ∧
    ∃ locator, SelectsCitation plainTables (JsonText.utf8 (refundLines.drop 2))
      (refundLines.drop 2) locator [] := by
  constructor
  · obtain ⟨locator, resolves⟩ := exists_locator refundLines (by decide)
    apply Exists.intro locator
    apply (selectsCitation_iff plainTables_keepsBlank resolves).mpr
    left
    have scores : (sentenceScores plainTables refundLines "refunds".toList).any
        (fun score => 0 < score.2) = true := by
      decide +kernel
    obtain ⟨score, among, positive⟩ := List.any_eq_true.mp scores
    exact ⟨score, among, .inr (of_decide_eq_true positive)⟩
  · obtain ⟨locator, resolves⟩ := exists_locator (refundLines.drop 2) (by decide)
    apply Exists.intro locator
    apply (selectsCitation_iff plainTables_keepsBlank resolves).mpr
    exact .inr (opensWithText_of_head (by decide))

/-- A content that is not blank, and whose first line is. -/
def blankOpening : List Char :=
  [' ', '\n', '-', ' ', 'a']

theorem blankOpening_not_cited :
    ¬∀ document content locator query, ¬Blank content →
      SourceLocator.resolve document locator = .ok (JsonText.utf8 content) →
        SelectsCitation plainTables document content locator query := by
  intro cites
  obtain ⟨locator, resolves⟩ := exists_locator blankOpening (by decide)
  have filled : ¬Blank blankOpening := by
    intro blank
    have space := blank 'a' (by decide)
    cases space
  have read : sentences blankOpening = [(0, 1), (2, 5)] := by decide
  rcases (selectsCitation_iff plainTables_keepsBlank resolves).mp
    (cites _ _ _ [] filled resolves) with speaks | opens
  · obtain ⟨score, among, positive⟩ := speaks
    have scores : sentenceScores plainTables blankOpening [] = [(0, 0), (0, 0)] := by
      decide +kernel
    rw [scores] at among
    simp only [List.mem_cons, List.not_mem_nil, or_false, or_self] at among
    rw [among] at positive
    simp at positive
  · obtain ⟨first, later, sentences_eq, text⟩ := opens
    rw [read] at sentences_eq
    cases sentences_eq
    apply text
    have window : spanText blankOpening (boundedContextWindow blankOpening (0, 1) [(2, 5)]) =
        [' '] := by
      decide +kernel
    rw [window]
    exact List.forall_mem_singleton.mpr (by decide)

end SupportingSpans

end SupportGuard
