import SupportGuard.Foundation.PyConversion
import Mathlib.Data.List.Infix

/-! # The lines of a text

`str.splitlines`, with the end of each line kept, and the joins that put lines together
again. -/

namespace Foundation

/-- The characters that end a line. -/
def isLineBoundary (character : Char) : Bool :=
  character.toNat ∈ [0x0A, 0x0B, 0x0C, 0x0D, 0x1C, 0x1D, 0x1E, 0x85, 0x2028, 0x2029]

structure SourceLine where
  text : List Char
  ending : List Char
deriving DecidableEq

/-- The line as it stands in the text. -/
def SourceLine.source (line : SourceLine) : List Char :=
  line.text ++ line.ending

def extendFirst (character : Char) : List SourceLine → List SourceLine
  | [] => [{ text := [character], ending := [] }]
  | line :: lines => { line with text := character :: line.text } :: lines

/-- `str.splitlines`; CR and LF together end one line. -/
def splitLines : List Char → List SourceLine
  | [] => []
  | '\r' :: '\n' :: rest => { text := [], ending := ['\r', '\n'] } :: splitLines rest
  | character :: rest =>
      if isLineBoundary character then { text := [], ending := [character] } :: splitLines rest
      else extendFirst character (splitLines rest)

theorem extendFirst_source (character : Char) (lines : List SourceLine) :
    (extendFirst character lines).flatMap SourceLine.source =
      character :: lines.flatMap SourceLine.source := by
  cases lines with
  | nil => rfl
  | cons line lines => simp [extendFirst, SourceLine.source]

/-- The lines with their ends are the text. -/
theorem splitLines_source (text : List Char) :
    (splitLines text).flatMap SourceLine.source = text := by
  induction text using splitLines.induct with
  | case1 => rfl
  | case2 rest induction => simp [splitLines, SourceLine.source, induction]
  | case3 character rest _ boundary induction =>
      rw [splitLines, if_pos boundary]
      · simp [SourceLine.source, induction]
      · assumption
  | case4 character rest _ inside induction =>
      rw [splitLines, if_neg inside]
      · rw [extendFirst_source, induction]
      · assumption

theorem SourceLine.source_within {line : SourceLine} {lines : List SourceLine}
    (member : line ∈ lines) : line.source <:+: lines.flatMap SourceLine.source :=
  List.infix_of_mem_flatten (List.mem_map_of_mem member)

/-! ## Parts of one line -/

/-- A part of two texts with a separator between them that is free of the separator is a part
of one of them. -/
theorem infix_append_cons {α : Type} {part before after : List α} {separator : α}
    (free : separator ∉ part) (stands : part <:+: before ++ separator :: after) :
    part <:+: before ∨ part <:+: after := by
  obtain ⟨left, right, whole⟩ := stands
  rw [List.append_assoc, List.append_eq_append_iff] at whole
  obtain ⟨middle, before_eq, rest_eq⟩ | ⟨middle, left_eq, rest_eq⟩ := whole
  · -- The part starts in the first text, and cannot reach over the separator.
    rw [List.append_eq_append_iff] at rest_eq
    obtain ⟨tail, middle_eq, _⟩ | ⟨tail, part_eq, tail_eq⟩ := rest_eq
    · left
      exact ⟨left, tail, by rw [before_eq, middle_eq, List.append_assoc]⟩
    · cases tail with
      | nil =>
          left
          exact ⟨left, [], by simp [before_eq, part_eq]⟩
      | cons first tail =>
          have first_eq : separator = first := (List.cons.inj tail_eq).1
          exact absurd (by simp [part_eq, first_eq]) free
  · cases middle with
    | nil =>
        cases part with
        | nil => exact .inl List.nil_infix
        | cons first part =>
            have first_eq : separator = first := (List.cons.inj rest_eq).1
            exact absurd (by simp [first_eq]) free
    | cons first middle =>
        right
        exact ⟨middle, right, by simpa using (List.cons.inj rest_eq).2.symm⟩

/-- Each part of the text that is on one line stands in the document. -/
def LinesStandIn (document text : List Char) : Prop :=
  ∀ part, part <:+: text → '\n' ∉ part → part <:+: document

namespace LinesStandIn

variable {document text : List Char}

theorem of_infix (stands : text <:+: document) : LinesStandIn document text :=
  fun _ inside _ => inside.trans stands

theorem part {other : List Char} (lines : LinesStandIn document text) (inside : other <:+: text) :
    LinesStandIn document other :=
  fun part stands free => lines part (stands.trans inside) free

theorem newline_append {before after : List Char} (first : LinesStandIn document before)
    (second : LinesStandIn document after) : LinesStandIn document (before ++ '\n' :: after) := by
  intro part inside free
  obtain inFirst | inSecond := infix_append_cons free inside
  · exact first part inFirst free
  · exact second part inSecond free

/-- A separator that makes no new line may stand between any number of texts. -/
theorem intercalate {separator : List Char} {texts : List (List Char)}
    (glue : ∀ before after, LinesStandIn document before → LinesStandIn document after →
      LinesStandIn document (before ++ separator ++ after))
    (lines : ∀ text ∈ texts, LinesStandIn document text) :
    LinesStandIn document (List.intercalate separator texts) := by
  induction texts with
  | nil => exact of_infix List.nil_infix
  | cons first texts induction =>
      have head := lines first List.mem_cons_self
      have rest := induction fun text member => lines text (List.mem_cons_of_mem _ member)
      cases texts with
      | nil => rwa [List.intercalate_singleton]
      | cons second texts =>
          rw [List.intercalate_cons_cons]
          exact glue first _ head rest

theorem joinLines {texts : List (List Char)}
    (lines : ∀ text ∈ texts, LinesStandIn document text) :
    LinesStandIn document (List.intercalate ['\n'] texts) := by
  apply intercalate _ lines
  intro before after first second
  rw [List.append_assoc]
  exact first.newline_append second

theorem joinParagraphs {texts : List (List Char)}
    (lines : ∀ text ∈ texts, LinesStandIn document text) :
    LinesStandIn document (List.intercalate ['\n', '\n'] texts) := by
  apply intercalate _ lines
  intro before after first second
  rw [List.append_assoc]
  have empty : LinesStandIn document [] := of_infix List.nil_infix
  exact first.newline_append (empty.newline_append second)

end LinesStandIn

end Foundation
