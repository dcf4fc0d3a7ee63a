import SupportGuard.Foundation.Ancestry
import SupportGuard.Rag.Chunking

/-! # The paths of the sections

`_sections` cuts its stack of headings at the level of each heading that comes, as if the
stack had one entry for each level. Where a level has been skipped, an entry stands higher
than its level, and a heading of the same level is put under it. -/

namespace SupportGuard

open Foundation

/-! ## The bodies of a document -/

/-- The text between two headings, with every heading before it. -/
structure BodyRun where
  headings : List (Nat × List Char)
  lines : List SourceLine

namespace BodyRun

def content (run : BodyRun) : List Char :=
  stripSpace (List.intercalate ['\n'] (run.lines.map SourceLine.text))

def ancestors (run : BodyRun) : List (Nat × List Char) :=
  Ancestry.enclosing Prod.fst run.headings

end BodyRun

def bodyRuns (headings : List (Nat × List Char)) (body : List SourceLine) :
    List SourceLine → List BodyRun
  | [] => [{ headings, lines := body }]
  | line :: rest =>
      match heading? line.text with
      | none => bodyRuns headings (body ++ [line]) rest
      | some heading => { headings, lines := body } :: bodyRuns (headings ++ [heading]) [] rest

/-- The bodies that are not blank. -/
def filledRuns (markdown : List Char) : List BodyRun :=
  (bodyRuns [] [] (splitLines markdown)).filter fun run => run.content ≠ []

def headingsPath (headings : List (Nat × List Char)) : List Char :=
  let joined := List.intercalate " > ".toList (headings.map Prod.snd)
  if joined = [] then "正文".toList else joined

/-- Each section has the text of one body, and its path is the headings that enclose the body. -/
def PathsAreAncestries (markdown : List Char) : Prop :=
  (markdownSections markdown).map (fun part => (part.path, part.body)) =
    (filledRuns markdown).map fun run => (headingsPath run.ancestors, run.content)

instance (markdown : List Char) : Decidable (PathsAreAncestries markdown) :=
  inferInstanceAs (Decidable (_ = _))

/-! ## What the stack holds -/

namespace BodyRun

def stack (run : BodyRun) : List (Nat × List Char) :=
  Ancestry.stacked Prod.fst run.headings

/-- The section that the stack makes of a body. -/
def entry (run : BodyRun) : List Char × List Char :=
  (headingsPath run.stack, run.content)

end BodyRun

namespace SectionState

/-- The state has read the headings up to its body. -/
structure After (state : SectionState) (headings : List (Nat × List Char)) : Prop where
  stack : state.headings = (Ancestry.stacked Prod.fst headings).map Prod.snd

def entries (state : SectionState) : List (List Char × List Char) :=
  state.result.map fun part => (part.path, part.body)

variable {state : SectionState} {headings : List (Nat × List Char)}

theorem path_eq (after : state.After headings) :
    state.path = headingsPath (Ancestry.stacked Prod.fst headings) := by
  rw [path, after.stack]
  rfl

theorem entries_flush (after : state.After headings) :
    state.flush.entries =
      state.entries ++
        ([{ headings, lines := state.body }].filter fun run : BodyRun => run.content ≠ []).map
          BodyRun.entry := by
  have content_eq : ({ headings, lines := state.body } : BodyRun).content =
      stripSpace (List.intercalate ['\n'] (state.body.map SourceLine.text)) := rfl
  by_cases blank : stripSpace (List.intercalate ['\n'] (state.body.map SourceLine.text)) = []
  · have skipped : state.flush.result = state.result := by
      simp only [flush, if_pos blank]
    rw [entries, skipped, List.filter_cons, if_neg (by simp [content_eq, blank])]
    simp [entries]
  · have added : state.flush.entries = state.entries ++
        [(state.path, stripSpace (List.intercalate ['\n'] (state.body.map SourceLine.text)))] := by
      simp only [entries, flush, if_neg blank, List.map_append, List.map_cons, List.map_nil]
    rw [added, path_eq after, List.filter_cons, if_pos (by simp [content_eq, blank])]
    rfl

theorem After.push (after : state.After headings) {line : SourceLine} {heading : Nat × List Char}
    (isHeading : heading? line.text = some heading) :
    (state.readLine line).After (headings ++ [heading]) := by
  constructor
  simp only [readLine, isHeading]
  rw [Ancestry.stacked_concat, Ancestry.push, List.map_append, List.map_take, after.stack]
  rfl

/-- The rest of the document adds the sections that the stack makes of its bodies. -/
theorem entries_foldl (lines : List SourceLine) :
    ∀ {state : SectionState} {headings : List (Nat × List Char)}, state.After headings →
      (lines.foldl readLine state).flush.entries =
        state.entries ++
          ((bodyRuns headings state.body lines).filter fun run => run.content ≠ []).map
            BodyRun.entry := by
  induction lines with
  | nil => exact fun after => entries_flush after
  | cons line lines induction =>
      intro state headings after
      rw [List.foldl_cons, bodyRuns]
      cases isHeading : heading? line.text with
      | none =>
          have read : (state.readLine line).After headings := by
            constructor
            simp only [readLine, isHeading]
            exact after.stack
          have kept : (state.readLine line).entries = state.entries := by
            simp only [readLine, isHeading, entries]
          have longer : (state.readLine line).body = state.body ++ [line] := by
            simp only [readLine, isHeading]
          rw [induction read, kept, longer]
      | some heading =>
          have flushed : (state.readLine line).entries = state.flush.entries := by
            simp only [readLine, isHeading, entries]
          have emptied : (state.readLine line).body = [] := by
            simp only [readLine, isHeading, flush]
          rw [induction (after.push isHeading), flushed, emptied, entries_flush after,
            List.append_assoc, ← List.map_append, ← List.filter_append, List.singleton_append]

end SectionState

theorem markdownSections_entries (markdown : List Char) :
    (markdownSections markdown).map (fun part => (part.path, part.body)) =
      (filledRuns markdown).map BodyRun.entry :=
  have start : ({} : SectionState).After [] := ⟨rfl⟩
  SectionState.entries_foldl (splitLines markdown) start

/-! ## Levels -/

theorem heading_level {line text : List Char} {level : Nat}
    (isHeading : heading? line = some (level, text)) : 0 < level := by
  simp only [heading?] at isHeading
  split at isHeading
  · cases isHeading
  · split at isHeading
    · cases isHeading
      omega
    · split at isHeading
      · cases isHeading
      · cases isHeading
        omega

theorem bodyRuns_levels {lines : List SourceLine} :
    ∀ {headings : List (Nat × List Char)} {body : List SourceLine},
      (∀ heading ∈ headings, 0 < heading.1) →
        ∀ run ∈ bodyRuns headings body lines, ∀ heading ∈ run.headings, 0 < heading.1 := by
  induction lines with
  | nil =>
      intro headings body positive run member
      rw [List.mem_singleton.mp member]
      exact positive
  | cons line lines induction =>
      intro headings body positive run member
      rw [bodyRuns] at member
      cases isHeading : heading? line.text with
      | none =>
          rw [isHeading] at member
          exact induction positive run member
      | some heading =>
          rw [isHeading] at member
          rcases List.mem_cons.mp member with equal | later
          · rw [equal]
            exact positive
          · apply induction _ run later
            intro other inside
            rcases List.mem_append.mp inside with before | last
            · exact positive other before
            · rw [List.mem_singleton.mp last]
              exact heading_level isHeading

theorem filledRuns_levels {markdown : List Char} {run : BodyRun}
    (member : run ∈ filledRuns markdown) : ∀ heading ∈ run.headings, 0 < heading.1 :=
  bodyRuns_levels (fun _ inside => absurd inside List.not_mem_nil) run
    (List.mem_filter.mp member).1

/-! ## The texts of paths -/

def separator : List Char := " > ".toList

/-- The joined texts, with a separator after the last one too. -/
def separated (headings : List (Nat × List Char)) : List Char :=
  headings.flatMap fun heading => heading.2 ++ separator

theorem length_separated_cons (heading : Nat × List Char) (rest : List (Nat × List Char)) :
    (separated (heading :: rest)).length = heading.2.length + 3 + (separated rest).length := by
  rw [separated, List.flatMap_cons, List.length_append, List.length_append]
  rfl

theorem length_joined (first : Nat × List Char) (rest : List (Nat × List Char)) :
    (List.intercalate separator ((first :: rest).map Prod.snd)).length + 3 =
      (separated (first :: rest)).length := by
  induction rest generalizing first with
  | nil => simp [separated, separator]
  | cons second rest induction =>
      have inner := induction second
      rw [List.map_cons, List.map_cons, List.intercalate_cons_cons, ← List.map_cons,
        List.length_append, List.length_append]
      have outer := length_separated_cons first (second :: rest)
      have width : separator.length = 3 := rfl
      omega

/-- Leaving out a heading leaves out its separator. -/
theorem separated_sublist {fewer headings : List (Nat × List Char)}
    (within : fewer.Sublist headings) :
    fewer = headings ∨ (separated fewer).length + 3 ≤ (separated headings).length := by
  induction within with
  | slnil => exact .inl rfl
  | @cons fewer headings heading _ induction =>
      right
      have longer := length_separated_cons heading headings
      rcases induction with equal | shorter
      · rw [longer, equal]
        omega
      · omega
  | @cons_cons fewer headings heading _ induction =>
      rcases induction with equal | shorter
      · rw [equal]
        exact .inl rfl
      · right
        rw [length_separated_cons, length_separated_cons]
        omega

theorem headingsPath_length_le (headings : List (Nat × List Char)) :
    (headingsPath headings).length ≤
      max 2 (List.intercalate separator (headings.map Prod.snd)).length := by
  simp only [headingsPath]
  split
  · exact Nat.le_max_left _ _
  · exact Nat.le_max_right _ _

/-- A path tells which of the headings it was joined from. -/
theorem headingsPath_eq_iff {fewer headings : List (Nat × List Char)}
    (within : fewer.Sublist headings) (filled : fewer = [] → headings = []) :
    headingsPath headings = headingsPath fewer ↔ headings = fewer := by
  constructor
  · intro same
    rcases separated_sublist within with equal | shorter
    · exact equal.symm
    · exfalso
      cases fewer with
      | nil =>
          rw [filled rfl] at shorter
          simp [separated] at shorter
      | cons first rest =>
          cases headings with
          | nil => cases within
          | cons outer later =>
              rw [← length_joined first rest, ← length_joined outer later] at shorter
              have bound := headingsPath_length_le (first :: rest)
              have whole : headingsPath (outer :: later) =
                  List.intercalate separator ((outer :: later).map Prod.snd) := by
                apply if_neg
                intro empty
                rw [separator, empty] at shorter
                simp at shorter
              rw [← same, whole] at bound
              omega
  · exact congrArg headingsPath

/-! ## Which sections have their ancestry -/

theorem BodyRun.entry_eq_iff {markdown : List Char} {run : BodyRun}
    (member : run ∈ filledRuns markdown) :
    run.entry = (headingsPath run.ancestors, run.content) ↔
      Ancestry.Placed Prod.fst run.headings.reverse := by
  have positive := filledRuns_levels member
  rw [BodyRun.entry, Prod.mk.injEq, and_iff_left rfl, BodyRun.stack, BodyRun.ancestors,
    headingsPath_eq_iff (Ancestry.enclosing_sublist positive) Ancestry.stacked_eq_nil,
    Ancestry.stacked_eq_enclosing_iff positive]

/-- The paths are the ancestries exactly where the last heading before each body is placed. -/
theorem pathsAreAncestries_iff (markdown : List Char) :
    PathsAreAncestries markdown ↔
      ∀ run ∈ filledRuns markdown, Ancestry.Placed Prod.fst run.headings.reverse := by
  rw [PathsAreAncestries, markdownSections_entries, List.map_inj_left]
  apply forall_congr'
  intro run
  apply forall_congr'
  exact BodyRun.entry_eq_iff

def skippedLevel : List Char := "# A\n### C\nx\n### D\ny".toList

theorem skippedLevel_nests_siblings : ¬PathsAreAncestries skippedLevel := by
  decide +kernel

end SupportGuard
