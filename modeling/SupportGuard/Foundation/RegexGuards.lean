import SupportGuard.Foundation.RegexDerivation

/-! # Guards of a pattern

What a pattern looks at before it takes the first character decides only where a match may
begin. Two patterns that differ in it alone find the same matches as long as both let every
match begin that one of them lets begin. -/

namespace Foundation

namespace Regex

/-- The pattern takes no character and captures nothing. -/
def isGuard : Regex → Bool
  | .empty => true
  | .wordBoundary => true
  | .textStart => true
  | .textEnd => true
  | .notBehind _ => true
  | .seq first second => isGuard first && isGuard second
  | .alt first second => isGuard first && isGuard second
  | _ => false

/-- Whether the guard lets a match go on from the position. -/
def allows (subject : Subject) (guard : Regex) (position : Nat) : Bool :=
  (guard.run subject position [] fun _ _ => some ()).isSome

section Guards

variable {subject : Subject} {position : Nat}

theorem run_guard {guard : Regex} (isGuard_eq : guard.isGuard = true) {β : Type}
    {captures : Captures} {next : Next β} :
    guard.run subject position captures next =
      if guard.allows subject position then next position captures else none := by
  induction guard generalizing β captures next with
  | empty => rfl
  | wordBoundary =>
      simp only [allows, run]
      by_cases here : subject.atBoundary position <;> simp [here]
  | textStart =>
      simp only [allows, run]
      by_cases here : position = 0 <;> simp [here]
  | textEnd =>
      simp only [allows, run]
      by_cases here : subject.atEnd position <;> simp [here]
  | notBehind items =>
      cases position with
      | zero => rfl
      | succ previous =>
          simp only [allows, run]
          split <;> simp
  | seq first second firstRun secondRun =>
      rw [isGuard, Bool.and_eq_true] at isGuard_eq
      rw [allows, run, run, firstRun isGuard_eq.1, firstRun isGuard_eq.1,
        secondRun isGuard_eq.2, secondRun isGuard_eq.2]
      by_cases before : first.allows subject position <;>
        by_cases other : second.allows subject position <;> simp [before, other]
  | alt first second firstRun secondRun =>
      rw [isGuard, Bool.and_eq_true] at isGuard_eq
      rw [allows, run, run, firstRun isGuard_eq.1, firstRun isGuard_eq.1,
        secondRun isGuard_eq.2, secondRun isGuard_eq.2]
      by_cases before : first.allows subject position <;>
        by_cases other : second.allows subject position <;> simp [before, other]
  | _ => cases isGuard_eq

theorem allows_alt {first second : Regex} (firstGuard : first.isGuard = true)
    (secondGuard : second.isGuard = true) :
    (Regex.alt first second).allows subject position =
      (first.allows subject position || second.allows subject position) := by
  rw [allows, run, run_guard firstGuard, run_guard secondGuard]
  by_cases before : first.allows subject position <;>
    by_cases other : second.allows subject position <;> simp [before, other]

end Guards

/-! ## Fewer places to begin -/

/-- The narrow pattern matches as the wide one does wherever it may begin. -/
structure Narrows (isWord : Char → Bool) (narrow wide : Regex)
    (begins : List Char → Nat → Bool) : Prop where
  matchAt_eq : ∀ text advance position,
    matchAt isWord narrow text advance position =
      if begins text position then matchAt isWord wide text advance position else none

/-- Where the guard lets a match begin. -/
def beginsAt (isWord : Char → Bool) (guard : Regex) (text : List Char) (position : Nat) : Bool :=
  guard.allows { text, isWord } position

theorem Narrows.of_guards {isWord : Char → Bool} {guard weaker body : Regex}
    (isGuard_eq : guard.isGuard = true) (weaker_eq : weaker.isGuard = true)
    (weakens : ∀ subject position, guard.allows subject position = true →
      weaker.allows subject position = true) :
    Narrows isWord (.seq guard body) (.seq weaker body) (beginsAt isWord guard) where
  matchAt_eq text advance position := by
    simp only [matchAt, run, run_guard isGuard_eq, run_guard weaker_eq, beginsAt]
    by_cases here : guard.allows { text, isWord } position
    · simp [here, weakens _ _ here]
    · simp [here]

variable {isWord : Char → Bool} {narrow wide : Regex} {begins : List Char → Nat → Bool}
  {text : List Char} {found : RegexMatch}

variable {advance : Bool}

theorem Narrows.begins_of_searchFrom (narrows : Narrows isWord narrow wide begins) {places : Nat}
    {position : Nat} (within : position + places ≤ text.length + 1)
    (first : searchFrom isWord narrow text places advance position = some found) :
    begins text found.start = true := by
  induction places generalizing advance position with
  | zero => cases first
  | succ places induction =>
      rw [searchFrom, Option.or_eq_some_iff] at first
      rcases first with here | ⟨_, later⟩
      · have start := (matchAt_of (by omega) here).2
        rw [narrows.matchAt_eq] at here
        split at here
        · next allowed =>
            rw [start]
            exact allowed
        · cases here
      · exact induction (by omega) later

theorem Narrows.searchFrom_eq (narrows : Narrows isWord narrow wide begins) {places : Nat}
    {position : Nat} (within : position + places ≤ text.length + 1)
    (open_ : ∀ found, searchFrom isWord wide text places advance position = some found →
      begins text found.start = true) :
    searchFrom isWord narrow text places advance position =
      searchFrom isWord wide text places advance position := by
  induction places generalizing advance position with
  | zero => rfl
  | succ places induction =>
      rw [searchFrom, searchFrom, narrows.matchAt_eq]
      cases here : matchAt isWord wide text advance position with
      | some found =>
          have first : searchFrom isWord wide text (places + 1) advance position = some found := by
            rw [searchFrom, here, Option.some_or]
          have allowed := open_ found first
          rw [(matchAt_of (by omega) here).2] at allowed
          rw [if_pos allowed, Option.some_or, Option.some_or]
      | none =>
          rw [ite_self, Option.none_or, Option.none_or]
          apply induction (by omega)
          intro found first
          apply open_
          rw [searchFrom, here, Option.none_or]
          exact first

theorem Narrows.matchesFrom_eq (narrows : Narrows isWord narrow wide begins) {fuel : Nat}
    {position : Nat} (within : position ≤ text.length)
    (open_ : ∀ found ∈ matchesFrom isWord wide text fuel advance position,
      begins text found.start = true) :
    matchesFrom isWord narrow text fuel advance position =
      matchesFrom isWord wide text fuel advance position := by
  induction fuel generalizing advance position with
  | zero => rfl
  | succ fuel induction =>
      have same : searchFrom isWord narrow text (text.length + 1 - position) advance position =
          searchFrom isWord wide text (text.length + 1 - position) advance position := by
        apply narrows.searchFrom_eq (by omega)
        intro found first
        apply open_
        rw [matchesFrom, first]
        exact List.mem_cons_self
      rw [matchesFrom, matchesFrom, same]
      cases first : searchFrom isWord wide text (text.length + 1 - position) advance position with
      | none => rfl
      | some found =>
          have matched := searchFrom_of (by omega) first
          simp only [List.cons.injEq, true_and]
          apply induction matched.1.stop_le
          intro other later
          apply open_
          rw [matchesFrom, first]
          exact List.mem_cons_of_mem _ later

theorem Narrows.finditer_eq (narrows : Narrows isWord narrow wide begins) {start stop : Nat}
    (open_ : ∀ found ∈ finditer isWord wide text start stop,
      begins (text.take stop) found.start = true) :
    finditer isWord narrow text start stop = finditer isWord wide text start stop :=
  narrows.matchesFrom_eq (Nat.min_le_right _ _) open_

/-! ## Two guards of one pattern -/

theorem Narrows.searchFrom_found (narrows : Narrows isWord narrow wide begins) {places : Nat}
    {position : Nat} (within : position + places ≤ text.length + 1)
    (first : searchFrom isWord wide text places advance position = some found)
    (allowed : begins text found.start = true) :
    searchFrom isWord narrow text places advance position = some found := by
  rw [← first]
  apply narrows.searchFrom_eq within
  intro other same
  rw [first] at same
  cases same
  exact allowed

theorem matchesFrom_cons {regex : Regex} {fuel : Nat} {position : Nat} {later : List RegexMatch}
    (matched : matchesFrom isWord regex text (fuel + 1) advance position = found :: later) :
    searchFrom isWord regex text (text.length + 1 - position) advance position = some found ∧
      matchesFrom isWord regex text fuel (found.stop = found.start) found.stop = later := by
  rw [matchesFrom] at matched
  split at matched
  · cases matched
  · next first chosen =>
      cases matched
      exact ⟨chosen, rfl⟩

section Pair

variable {other : Regex} {otherBegins : List Char → Nat → Bool}

/-- Where both find the same matches, the first of them begins where both may. -/
theorem Narrows.begins_of_same (narrows : Narrows isWord narrow wide begins)
    (otherNarrows : Narrows isWord other wide otherBegins)
    {fuel : Nat} {advance : Bool} {position : Nat} (within : position ≤ text.length)
    (first : searchFrom isWord wide text (text.length + 1 - position) advance position =
      some found)
    (allowed : begins text found.start = true)
    (same : matchesFrom isWord narrow text (fuel + 1) advance position =
      matchesFrom isWord other text (fuel + 1) advance position) :
    otherBegins text found.start = true ∧
      matchesFrom isWord narrow text fuel (found.stop = found.start) found.stop =
        matchesFrom isWord other text fuel (found.stop = found.start) found.stop := by
  have here := narrows.searchFrom_found (by omega) first allowed
  rw [matchesFrom, here] at same
  obtain ⟨there, later⟩ := matchesFrom_cons same.symm
  exact ⟨otherNarrows.begins_of_searchFrom (by omega) there, later.symm⟩

theorem Narrows.both_begin (narrows : Narrows isWord narrow wide begins)
    (otherNarrows : Narrows isWord other wide otherBegins)
    {wideBegins : List Char → Nat → Bool} (wideNarrows : Narrows isWord wide wide wideBegins)
    (covers : ∀ place, wideBegins text place = true →
      begins text place = true ∨ otherBegins text place = true)
    {fuel : Nat} {advance : Bool} {position : Nat} (within : position ≤ text.length)
    (same : matchesFrom isWord narrow text fuel advance position =
      matchesFrom isWord other text fuel advance position) :
    ∀ found ∈ matchesFrom isWord wide text fuel advance position,
      begins text found.start = true ∧ otherBegins text found.start = true := by
  induction fuel generalizing advance position with
  | zero => exact fun found among => absurd among List.not_mem_nil
  | succ fuel induction =>
      rw [matchesFrom]
      cases first : searchFrom isWord wide text (text.length + 1 - position) advance position with
      | none => exact fun found among => absurd among List.not_mem_nil
      | some found =>
          have matched := (searchFrom_of (by omega) first).1
          have both : (begins text found.start = true ∧ otherBegins text found.start = true) ∧
              matchesFrom isWord narrow text fuel (found.stop = found.start) found.stop =
                matchesFrom isWord other text fuel (found.stop = found.start) found.stop := by
            have wideAllowed := wideNarrows.begins_of_searchFrom (by omega) first
            rcases covers found.start wideAllowed with allowed | allowed
            · obtain ⟨otherAllowed, later⟩ :=
                narrows.begins_of_same otherNarrows within first allowed same
              exact ⟨⟨allowed, otherAllowed⟩, later⟩
            · obtain ⟨otherAllowed, later⟩ :=
                otherNarrows.begins_of_same narrows within first allowed same.symm
              exact ⟨⟨otherAllowed, allowed⟩, later.symm⟩
          exact List.forall_mem_cons.mpr ⟨both.1, induction matched.stop_le both.2⟩

end Pair

/-- Two guards of one pattern find the same matches if and only if both let every match begin
that one of them lets begin. -/
theorem finditer_guards_iff {first second body : Regex} (firstGuard : first.isGuard = true)
    (secondGuard : second.isGuard = true) {start stop : Nat} :
    finditer isWord (.seq first body) text start stop =
        finditer isWord (.seq second body) text start stop ↔
      ∀ found ∈ finditer isWord (.seq (.alt first second) body) text start stop,
        beginsAt isWord first (text.take stop) found.start = true ∧
          beginsAt isWord second (text.take stop) found.start = true := by
  have weaker : (Regex.alt first second).isGuard = true := by
    rw [isGuard, firstGuard, secondGuard]
    rfl
  have left : Narrows isWord (.seq first body) (.seq (.alt first second) body)
      (beginsAt isWord first) := by
    apply Narrows.of_guards firstGuard weaker
    intro subject position allowed
    rw [allows_alt firstGuard secondGuard, allowed, Bool.true_or]
  have right : Narrows isWord (.seq second body) (.seq (.alt first second) body)
      (beginsAt isWord second) := by
    apply Narrows.of_guards secondGuard weaker
    intro subject position allowed
    rw [allows_alt firstGuard secondGuard, allowed, Bool.or_true]
  have self : Narrows isWord (.seq (.alt first second) body) (.seq (.alt first second) body)
      (beginsAt isWord (.alt first second)) :=
    .of_guards weaker weaker fun _ _ allowed => allowed
  constructor
  · apply left.both_begin right self _ (Nat.min_le_right _ _)
    intro place allowed
    rw [beginsAt, allows_alt firstGuard secondGuard, Bool.or_eq_true] at allowed
    exact allowed
  · intro both
    rw [left.finditer_eq fun found among => (both found among).1,
      right.finditer_eq fun found among => (both found among).2]

end Regex

end Foundation
