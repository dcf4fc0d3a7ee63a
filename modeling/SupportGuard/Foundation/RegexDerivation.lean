import SupportGuard.Foundation.Regex

/-! # What a match is made of

A match that backtracking finds derives from its pattern. The least and the greatest length of
what a pattern takes, the groups that always take part and the characters it accepts are read
off the pattern itself. -/

namespace Foundation

/-- The pattern takes the text from the first position to the second and captures these
groups. What it looks at without taking it is left out. -/
inductive Derives (subject : Subject) : Regex → Nat → Nat → Captures → Prop
  | empty {position : Nat} : Derives subject .empty position position []
  | oneOf {items : List ClassItem} {position : Nat} {character : Char}
      (here : subject.text[position]? = some character)
      (holds : items.any (ClassItem.holds character)) :
      Derives subject (.oneOf items) position (position + 1) []
  | anyCharacter {position : Nat} {character : Char}
      (here : subject.text[position]? = some character) :
      Derives subject .anyCharacter position (position + 1) []
  | wordBoundary {position : Nat} : Derives subject .wordBoundary position position []
  | textStart {position : Nat} : Derives subject .textStart position position []
  | textEnd {position : Nat} : Derives subject .textEnd position position []
  | seq {first second : Regex} {position middle after : Nat} {firstNew secondNew : Captures}
      (one : Derives subject first position middle firstNew)
      (other : Derives subject second middle after secondNew) :
      Derives subject (.seq first second) position after (secondNew ++ firstNew)
  | altFirst {first second : Regex} {position after : Nat} {new : Captures}
      (one : Derives subject first position after new) :
      Derives subject (.alt first second) position after new
  | altSecond {first second : Regex} {position after : Nat} {new : Captures}
      (other : Derives subject second position after new) :
      Derives subject (.alt first second) position after new
  | timesDone {body : Regex} {high : Option Nat} {position : Nat} :
      Derives subject (.times body 0 high) position position []
  | timesMore {body : Regex} {low : Nat} {high : Option Nat} {position middle after : Nat}
      {firstNew secondNew : Captures} (room : high ≠ some 0)
      (one : Derives subject body position middle firstNew)
      (other : Derives subject (.times body (low - 1) (high.map (· - 1))) middle after
        secondNew) :
      Derives subject (.times body low high) position after (secondNew ++ firstNew)
  | lazilyDone {body : Regex} {position : Nat} :
      Derives subject (.lazily body 0) position position []
  | lazilyMore {body : Regex} {low position middle after : Nat}
      {firstNew secondNew : Captures}
      (one : Derives subject body position middle firstNew)
      (other : Derives subject (.lazily body (low - 1)) middle after secondNew) :
      Derives subject (.lazily body low) position after (secondNew ++ firstNew)
  | group {index : Nat} {body : Regex} {position after : Nat} {new : Captures}
      (inner : Derives subject body position after new) :
      Derives subject (.group index body) position after ((index, position, after) :: new)
  | notAhead {body : Regex} {position : Nat} :
      Derives subject (.notAhead body) position position []
  | notBehind {items : List ClassItem} {position : Nat} :
      Derives subject (.notBehind items) position position []

variable {subject : Subject}

/-! ## Backtracking only finds derivations -/

/-- What a way to match has to do: go on only from where a derivation ends. -/
def Sound (subject : Subject) (regex : Regex)
    (body : {β : Type} → Nat → Captures → Next β → Option β) : Prop :=
  ∀ {β : Type} {position : Nat} {captures : Captures} {next : Next β} {result : β},
    body position captures next = some result →
      ∃ after new, Derives subject regex position after new ∧
        next after (new ++ captures) = some result

theorem stays_sound {regex : Regex} {position : Nat} {captures : Captures} {β : Type}
    {next : Next β} {result : β} (stays : Derives subject regex position position [])
    (found : next position captures = some result) :
    ∃ after new, Derives subject regex position after new ∧
      next after (new ++ captures) = some result :=
  ⟨position, [], stays, found⟩

theorem times_sound {regex : Regex} {body : {β : Type} → Nat → Captures → Next β → Option β}
    (sound : Sound subject regex body) {β : Type} {next : Next β} {result : β} {turns low : Nat}
    {high : Option Nat} {position : Nat} {captures : Captures}
    (bounded : ∀ most, high = some most → turns ≤ most)
    (found : Regex.repeated body turns low position captures next = some result) :
    ∃ after new, Derives subject (.times regex low high) position after new ∧
      next after (new ++ captures) = some result := by
  induction turns generalizing low high position captures with
  | zero =>
      rw [Regex.repeated] at found
      split at found
      · next none =>
          rw [none]
          exact stays_sound .timesDone found
      · cases found
  | succ turns induction =>
      rw [Regex.repeated, Option.or_eq_some_iff] at found
      rcases found with turn | ⟨_, done⟩
      · rcases sound turn with ⟨middle, firstNew, one, further⟩
        split at further
        · cases further
        · have room : high ≠ some 0 := by
            intro none
            have := bounded 0 none
            omega
          have rest : ∀ most, high.map (· - 1) = some most → turns ≤ most := by
            intro most bound
            rcases Option.map_eq_some_iff.mp bound with ⟨former, before, rfl⟩
            have := bounded former before
            omega
          rcases induction rest further with ⟨after, secondNew, other, ends⟩
          rw [← List.append_assoc] at ends
          exact ⟨after, secondNew ++ firstNew, .timesMore room one other, ends⟩
      · split at done
        · next none =>
            rw [none]
            exact stays_sound .timesDone done
        · cases done

theorem lazily_sound {regex : Regex} {body : {β : Type} → Nat → Captures → Next β → Option β}
    (sound : Sound subject regex body) {β : Type} {next : Next β} {result : β} {turns low : Nat}
    {position : Nat} {captures : Captures}
    (found : Regex.repeatedLazily body turns low position captures next = some result) :
    ∃ after new, Derives subject (.lazily regex low) position after new ∧
      next after (new ++ captures) = some result := by
  induction turns generalizing low position captures with
  | zero =>
      rw [Regex.repeatedLazily] at found
      split at found
      · next none =>
          rw [none]
          exact stays_sound .lazilyDone found
      · cases found
  | succ turns induction =>
      rw [Regex.repeatedLazily, Option.or_eq_some_iff] at found
      rcases found with done | ⟨_, turn⟩
      · split at done
        · next none =>
            rw [none]
            exact stays_sound .lazilyDone done
        · cases done
      · rcases sound turn with ⟨middle, firstNew, one, further⟩
        split at further
        · cases further
        · rcases induction further with ⟨after, secondNew, other, ends⟩
          rw [← List.append_assoc] at ends
          exact ⟨after, secondNew ++ firstNew, .lazilyMore one other, ends⟩

theorem run_sound (regex : Regex) : Sound subject regex (Regex.run subject regex) := by
  induction regex with
  | empty =>
      intro β position captures next result found
      exact stays_sound .empty found
  | oneOf items =>
      intro β position captures next result found
      simp only [Regex.run] at found
      split at found
      · next character here =>
          split at found
          · next holds => exact ⟨position + 1, [], .oneOf here holds, found⟩
          · cases found
      · cases found
  | anyCharacter =>
      intro β position captures next result found
      simp only [Regex.run] at found
      split at found
      · next character here =>
          split at found
          · exact ⟨position + 1, [], .anyCharacter here, found⟩
          · cases found
      · cases found
  | wordBoundary =>
      intro β position captures next result found
      simp only [Regex.run, ite_eq_iff] at found
      rcases found with ⟨_, found⟩ | ⟨_, absent⟩
      · exact stays_sound .wordBoundary found
      · cases absent
  | textStart =>
      intro β position captures next result found
      simp only [Regex.run, ite_eq_iff] at found
      rcases found with ⟨_, found⟩ | ⟨_, absent⟩
      · exact stays_sound .textStart found
      · cases absent
  | textEnd =>
      intro β position captures next result found
      simp only [Regex.run, ite_eq_iff] at found
      rcases found with ⟨_, found⟩ | ⟨_, absent⟩
      · exact stays_sound .textEnd found
      · cases absent
  | seq first second firstSound secondSound =>
      intro β position captures next result found
      rcases firstSound found with ⟨middle, firstNew, one, further⟩
      rcases secondSound further with ⟨after, secondNew, other, ends⟩
      rw [← List.append_assoc] at ends
      exact ⟨after, secondNew ++ firstNew, .seq one other, ends⟩
  | alt first second firstSound secondSound =>
      intro β position captures next result found
      simp only [Regex.run, Option.or_eq_some_iff] at found
      rcases found with one | ⟨_, other⟩
      · rcases firstSound one with ⟨after, new, derived, ends⟩
        exact ⟨after, new, .altFirst derived, ends⟩
      · rcases secondSound other with ⟨after, new, derived, ends⟩
        exact ⟨after, new, .altSecond derived, ends⟩
  | times body low high sound =>
      intro β position captures next result found
      apply times_sound sound ?_ found
      intro most bound
      rw [bound]
      exact Nat.le_refl most
  | lazily body low sound =>
      intro β position captures next result found
      exact lazily_sound sound found
  | group index body sound =>
      intro β position captures next result found
      rcases sound found with ⟨after, new, derived, ends⟩
      exact ⟨after, (index, position, after) :: new, .group derived, ends⟩
  | notAhead body sound =>
      intro β position captures next result found
      simp only [Regex.run] at found
      split at found
      · cases found
      · exact stays_sound .notAhead found
  | notBehind items =>
      intro β position captures next result found
      simp only [Regex.run] at found
      split at found
      · exact stays_sound .notBehind found
      · split at found
        · cases found
        · exact stays_sound .notBehind found

/-! ## What a pattern says of its matches -/

namespace Regex

/-- The least number of characters that a match takes. -/
def shortest : Regex → Nat
  | .oneOf _ | .anyCharacter => 1
  | .seq first second => first.shortest + second.shortest
  | .alt first second => min first.shortest second.shortest
  | .times body low _ | .lazily body low => low * body.shortest
  | .group _ body => body.shortest
  | .empty | .wordBoundary | .textStart | .textEnd | .notAhead _ | .notBehind _ => 0

/-- The greatest number of characters that a match takes, where there is one. -/
def longest : Regex → Option Nat
  | .oneOf _ | .anyCharacter => some 1
  | .seq first second => do return (← first.longest) + (← second.longest)
  | .alt first second => do return max (← first.longest) (← second.longest)
  | .times body _ high => do return (← high) * (← body.longest)
  | .lazily _ _ => none
  | .group _ body => body.longest
  | .empty | .wordBoundary | .textStart | .textEnd | .notAhead _ | .notBehind _ => some 0

/-- Whether one of the groups takes part in every match. -/
def captures (wanted : List Nat) : Regex → Bool
  | .seq first second => first.captures wanted || second.captures wanted
  | .alt first second => first.captures wanted && second.captures wanted
  | .times body low _ | .lazily body low => low ≠ 0 && body.captures wanted
  | .group index body => index ∈ wanted || body.captures wanted
  | _ => false

/-- The groups and what stands in them. -/
def groups : Regex → List (Nat × Regex)
  | .seq first second | .alt first second => first.groups ++ second.groups
  | .times body _ _ | .lazily body _ => body.groups
  | .group index body => (index, body) :: body.groups
  | _ => []

/-- Whether every character that a match takes is one of these. -/
def takesOnly (accepted : ClassItem → Bool) : Regex → Bool
  | .oneOf items => items.all accepted
  | .anyCharacter => false
  | .seq first second | .alt first second =>
      first.takesOnly accepted && second.takesOnly accepted
  | .times body _ _ | .lazily body _ | .group _ body => body.takesOnly accepted
  | .empty | .wordBoundary | .textStart | .textEnd | .notAhead _ | .notBehind _ => true

end Regex

namespace Derives

variable {regex : Regex} {position after : Nat} {new : Captures}

theorem shortest_le (derived : Derives subject regex position after new) :
    position + regex.shortest ≤ after := by
  induction derived with
  | seq _ _ first second =>
      rw [Regex.shortest]
      omega
  | altFirst _ bound =>
      rw [Regex.shortest]
      omega
  | altSecond _ bound =>
      rw [Regex.shortest]
      omega
  | @timesMore body low _ _ _ _ _ _ _ _ _ first second =>
      rw [Regex.shortest] at second ⊢
      rcases low with _ | low
      · omega
      · rw [Nat.add_sub_cancel] at second
        rw [Nat.succ_mul]
        omega
  | @lazilyMore body low _ _ _ _ _ _ _ first second =>
      rw [Regex.shortest] at second ⊢
      rcases low with _ | low
      · omega
      · rw [Nat.add_sub_cancel] at second
        rw [Nat.succ_mul]
        omega
  | group _ bound => exact bound
  | timesDone => simp [Regex.shortest]
  | lazilyDone => simp [Regex.shortest]
  | _ => simp only [Regex.shortest, Nat.add_zero, Nat.le_refl]

theorem le_after (derived : Derives subject regex position after new) : position ≤ after :=
  Nat.le_trans (Nat.le_add_right _ _) derived.shortest_le

theorem le_longest (derived : Derives subject regex position after new) :
    ∀ most, regex.longest = some most → after ≤ position + most := by
  induction derived with
  | seq _ _ first second =>
      intro most longest
      simp only [Regex.longest, bind, Option.bind_eq_some_iff, pure, Option.some.injEq] at longest
      rcases longest with ⟨one, ofFirst, other, ofSecond, rfl⟩
      have := first one ofFirst
      have := second other ofSecond
      omega
  | altFirst _ bound =>
      intro most longest
      simp only [Regex.longest, bind, Option.bind_eq_some_iff, pure, Option.some.injEq] at longest
      rcases longest with ⟨one, ofFirst, other, _, rfl⟩
      have := bound one ofFirst
      omega
  | altSecond _ bound =>
      intro most longest
      simp only [Regex.longest, bind, Option.bind_eq_some_iff, pure, Option.some.injEq] at longest
      rcases longest with ⟨one, _, other, ofSecond, rfl⟩
      have := bound other ofSecond
      omega
  | @timesMore body low high _ _ _ _ _ room _ _ first second =>
      intro most longest
      simp only [Regex.longest, bind, Option.bind_eq_some_iff, pure, Option.some.injEq] at longest
      rcases longest with ⟨turns, bounded, one, ofBody, rfl⟩
      rcases turns with _ | turns
      · exact absurd bounded room
      · have turn := first one ofBody
        have rest := second (turns * one) (by simp [Regex.longest, bounded, ofBody])
        rw [Nat.succ_mul]
        omega
  | lazilyDone =>
      intro most longest
      cases longest
  | lazilyMore =>
      intro most longest
      cases longest
  | group _ bound => exact bound
  | oneOf =>
      intro most longest
      cases longest
      exact Nat.le_refl _
  | anyCharacter =>
      intro most longest
      cases longest
      exact Nat.le_refl _
  | _ =>
      intro most _
      exact Nat.le_add_right _ _

theorem after_le_length (derived : Derives subject regex position after new)
    (within : position ≤ subject.text.length) : after ≤ subject.text.length := by
  induction derived with
  | oneOf here => exact (List.getElem?_eq_some_iff.mp here).1
  | anyCharacter here => exact (List.getElem?_eq_some_iff.mp here).1
  | seq _ _ first second => exact second (first within)
  | timesMore _ _ _ first second => exact second (first within)
  | lazilyMore _ _ first second => exact second (first within)
  | altFirst _ bound => exact bound within
  | altSecond _ bound => exact bound within
  | group _ bound => exact bound within
  | _ => exact within

/-- A group that always takes part is among the captures. -/
theorem captured (derived : Derives subject regex position after new) {wanted : List Nat}
    (always : regex.captures wanted = true) : ∃ capture ∈ new, capture.1 ∈ wanted := by
  induction derived with
  | seq _ _ first second =>
      rw [Regex.captures, Bool.or_eq_true] at always
      rcases always with inFirst | inSecond
      · rcases first inFirst with ⟨capture, among, isWanted⟩
        exact ⟨capture, List.mem_append_right _ among, isWanted⟩
      · rcases second inSecond with ⟨capture, among, isWanted⟩
        exact ⟨capture, List.mem_append_left _ among, isWanted⟩
  | altFirst _ bound =>
      rw [Regex.captures, Bool.and_eq_true] at always
      exact bound always.1
  | altSecond _ bound =>
      rw [Regex.captures, Bool.and_eq_true] at always
      exact bound always.2
  | timesMore _ _ _ first _ =>
      rw [Regex.captures, Bool.and_eq_true] at always
      rcases first always.2 with ⟨capture, among, isWanted⟩
      exact ⟨capture, List.mem_append_right _ among, isWanted⟩
  | lazilyMore _ _ first _ =>
      rw [Regex.captures, Bool.and_eq_true] at always
      rcases first always.2 with ⟨capture, among, isWanted⟩
      exact ⟨capture, List.mem_append_right _ among, isWanted⟩
  | @group index _ position after new _ bound =>
      rw [Regex.captures, Bool.or_eq_true, decide_eq_true_eq] at always
      rcases always with isWanted | inside
      · exact ⟨(index, position, after), List.mem_cons_self, isWanted⟩
      · rcases bound inside with ⟨capture, among, isWanted⟩
        exact ⟨capture, List.mem_cons_of_mem _ among, isWanted⟩
  | timesDone => simp [Regex.captures] at always
  | lazilyDone => simp [Regex.captures] at always
  | _ => cases always

/-- What a capture holds derives from what stands in the group. -/
theorem capture_derives (derived : Derives subject regex position after new)
    {index start stop : Nat} (among : (index, start, stop) ∈ new) :
    position ≤ start ∧ stop ≤ after ∧ ∃ body inner, (index, body) ∈ regex.groups ∧
      Derives subject body start stop inner := by
  induction derived with
  | seq one other first second =>
      have := one.le_after
      have := other.le_after
      rw [Regex.groups]
      rcases List.mem_append.mp among with later | earlier
      · rcases second later with ⟨low, high, body, inner, grouped, holds⟩
        exact ⟨by omega, high, body, inner, List.mem_append_right _ grouped, holds⟩
      · rcases first earlier with ⟨low, high, body, inner, grouped, holds⟩
        exact ⟨low, by omega, body, inner, List.mem_append_left _ grouped, holds⟩
  | altFirst _ bound =>
      rcases bound among with ⟨low, high, body, inner, grouped, holds⟩
      exact ⟨low, high, body, inner, List.mem_append_left _ grouped, holds⟩
  | altSecond _ bound =>
      rcases bound among with ⟨low, high, body, inner, grouped, holds⟩
      exact ⟨low, high, body, inner, List.mem_append_right _ grouped, holds⟩
  | timesMore _ one other first second =>
      have := one.le_after
      have := other.le_after
      rcases List.mem_append.mp among with later | earlier
      · rcases second later with ⟨low, high, body, inner, grouped, holds⟩
        exact ⟨by omega, high, body, inner, grouped, holds⟩
      · rcases first earlier with ⟨low, high, body, inner, grouped, holds⟩
        exact ⟨low, by omega, body, inner, grouped, holds⟩
  | lazilyMore one other first second =>
      have := one.le_after
      have := other.le_after
      rcases List.mem_append.mp among with later | earlier
      · rcases second later with ⟨low, high, body, inner, grouped, holds⟩
        exact ⟨by omega, high, body, inner, grouped, holds⟩
      · rcases first earlier with ⟨low, high, body, inner, grouped, holds⟩
        exact ⟨low, by omega, body, inner, grouped, holds⟩
  | group inside bound =>
      rcases List.mem_cons.mp among with same | later
      · cases same
        exact ⟨Nat.le_refl _, Nat.le_refl _, _, _, List.mem_cons_self, inside⟩
      · rcases bound later with ⟨low, high, body, inner, grouped, holds⟩
        exact ⟨low, high, body, inner, List.mem_cons_of_mem _ grouped, holds⟩
  | _ => cases among

/-- Each character that is taken is held by an item that the pattern may take. -/
theorem taken (derived : Derives subject regex position after new)
    {accepted : ClassItem → Bool} (only : regex.takesOnly accepted = true) {place : Nat}
    (low : position ≤ place) (high : place < after) :
    ∃ character item, subject.text[place]? = some character ∧ accepted item = true ∧
      item.holds character = true := by
  induction derived with
  | @oneOf items position character here holds =>
      rcases List.any_eq_true.mp holds with ⟨item, among, held⟩
      have same : place = position := by omega
      rw [same]
      exact ⟨character, item, here, List.all_eq_true.mp only item among, held⟩
  | anyCharacter => cases only
  | @seq _ _ _ middle _ _ _ one other first second =>
      rw [Regex.takesOnly, Bool.and_eq_true] at only
      by_cases early : place < middle
      · exact first only.1 low early
      · exact second only.2 (by omega) high
  | altFirst _ bound =>
      rw [Regex.takesOnly, Bool.and_eq_true] at only
      exact bound only.1 low high
  | altSecond _ bound =>
      rw [Regex.takesOnly, Bool.and_eq_true] at only
      exact bound only.2 low high
  | @timesMore _ _ _ _ middle _ _ _ _ _ _ first second =>
      by_cases early : place < middle
      · exact first only low early
      · exact second only (by omega) high
  | @lazilyMore _ _ _ middle _ _ _ _ _ first second =>
      by_cases early : place < middle
      · exact first only low early
      · exact second only (by omega) high
  | group _ bound => exact bound only low high
  | _ => omega

end Derives

/-! ## Searches -/

namespace RegexMatch

/-- The match derives from the pattern. -/
structure Of (found : RegexMatch) (isWord : Char → Bool) (regex : Regex) (text : List Char) :
    Prop where
  derived : Derives { text, isWord } regex found.start found.stop found.captures
  start_le : found.start ≤ text.length

variable {found : RegexMatch} {isWord : Char → Bool} {regex : Regex} {text : List Char}

theorem Of.stop_le (matched : found.Of isWord regex text) : found.stop ≤ text.length :=
  matched.derived.after_le_length matched.start_le

/-- The first of the wanted groups that has taken part. -/
theorem findSome?_span {wanted : List Nat} (numbered : 0 ∉ wanted)
    (captured : ∃ capture ∈ found.captures, capture.1 ∈ wanted) :
    ∃ index span, wanted.findSome? found.span = some span ∧
      (index, span) ∈ found.captures := by
  have taking : ∃ index ∈ wanted, ∃ span, found.span index = some span := by
    rcases captured with ⟨⟨index, span⟩, among, isWanted⟩
    have positive : index ≠ 0 := fun zero => numbered (zero ▸ isWanted)
    have present : (found.captures.find? (·.1 = index)).isSome := by
      rw [List.find?_isSome]
      exact ⟨(index, span), among, decide_eq_true rfl⟩
    rcases Option.isSome_iff_exists.mp present with ⟨capture, first⟩
    refine ⟨index, isWanted, capture.2, ?_⟩
    rw [RegexMatch.span, if_neg positive, first, Option.map_some]
  cases chosen : wanted.findSome? found.span with
  | none =>
      rcases taking with ⟨index, isWanted, span, given⟩
      rw [List.findSome?_eq_none_iff.mp chosen index isWanted] at given
      cases given
  | some span =>
      rcases List.exists_of_findSome?_eq_some chosen with ⟨index, isWanted, given⟩
      have positive : index ≠ 0 := fun zero => numbered (zero ▸ isWanted)
      rw [RegexMatch.span, if_neg positive] at given
      rcases Option.map_eq_some_iff.mp given with ⟨⟨own, place⟩, first, rfl⟩
      exact ⟨own, place, rfl, List.mem_of_find?_eq_some first⟩

end RegexMatch

namespace Regex

variable {isWord : Char → Bool} {regex : Regex} {text : List Char} {found : RegexMatch}

theorem matchAt_of {advance : Bool} {position : Nat} (within : position ≤ text.length)
    (here : matchAt isWord regex text advance position = some found) :
    found.Of isWord regex text ∧ found.start = position := by
  rcases run_sound regex here with ⟨after, new, derived, ends⟩
  split at ends
  · cases ends
  · cases ends
    rw [List.append_nil]
    exact ⟨⟨derived, within⟩, rfl⟩

theorem searchFrom_of {places : Nat} {advance : Bool} {position : Nat}
    (within : position + places ≤ text.length + 1)
    (first : searchFrom isWord regex text places advance position = some found) :
    found.Of isWord regex text ∧ position ≤ found.start := by
  induction places generalizing advance position with
  | zero => cases first
  | succ places induction =>
      rw [searchFrom, Option.or_eq_some_iff] at first
      rcases first with here | ⟨_, later⟩
      · have start := matchAt_of (by omega) here
        exact ⟨start.1, start.2.ge⟩
      · have rest := induction (by omega) later
        exact ⟨rest.1, by omega⟩

theorem search_of (first : search isWord regex text = some found) :
    found.Of isWord regex text :=
  (searchFrom_of (by omega) first).1

theorem matchesFrom_of {fuel : Nat} {advance : Bool} {position : Nat}
    (within : position ≤ text.length)
    (among : found ∈ matchesFrom isWord regex text fuel advance position) :
    found.Of isWord regex text := by
  induction fuel generalizing advance position with
  | zero => cases among
  | succ fuel induction =>
      rw [matchesFrom] at among
      split at among
      · cases among
      · next first chosen =>
          have start := searchFrom_of (by omega) chosen
          rcases List.mem_cons.mp among with same | later
          · rw [same]
            exact start.1
          · exact induction start.1.stop_le later

theorem finditer_of {start stop : Nat}
    (among : found ∈ finditer isWord regex text start stop) :
    found.Of isWord regex (text.take stop) :=
  matchesFrom_of (Nat.min_le_right _ _) among

end Regex

/-! ## The text of a group -/

theorem length_textSlice {text : List Char} {start stop : Nat} (bounded : stop ≤ text.length) :
    (textSlice text start stop).length = stop - start := by
  rw [textSlice, List.length_drop, List.length_take, Nat.min_eq_left bounded]

theorem textSlice_take {text : List Char} {start stop limit : Nat} (within : stop ≤ limit) :
    textSlice (text.take limit) start stop = textSlice text start stop := by
  rw [textSlice, textSlice, List.take_take, Nat.min_eq_left within]

/-- The characters of a text that a pattern takes. -/
theorem Derives.textSlice_taken {regex : Regex} {start stop : Nat} {new : Captures}
    (derived : Derives subject regex start stop new) {accepted : ClassItem → Bool}
    (only : regex.takesOnly accepted = true) :
    ∀ character ∈ textSlice subject.text start stop,
      ∃ item, accepted item = true ∧ item.holds character = true := by
  intro character among
  rcases List.mem_iff_getElem?.mp among with ⟨place, here⟩
  rw [textSlice, List.getElem?_drop, List.getElem?_take] at here
  split at here
  · next within =>
      rcases derived.taken only (Nat.le_add_right start place) within with
        ⟨taken, item, there, isAccepted, held⟩
      rw [there] at here
      cases here
      exact ⟨item, isAccepted, held⟩
  · cases here

namespace Regex

/-- What the wanted groups hold; the group of number 0 is the whole match. -/
def standing (regex : Regex) (wanted : List Nat) : List Regex :=
  if wanted = [0] then [regex] else regex.groups.map (·.2)

/-- One of the wanted groups takes part in every match, and no group is empty. -/
def readsField (regex : Regex) (wanted : List Nat) : Bool :=
  (wanted = [0] || 0 ∉ wanted && regex.captures wanted) &&
    (regex.standing wanted).all fun body => 0 < body.shortest

/-- The text is what one of the patterns takes somewhere. -/
def Take (bodies : List Regex) (isWord : Char → Bool) (text : List Char) : Prop :=
  ∃ body ∈ bodies, ∃ whole start stop new, stop ≤ whole.length ∧
    Derives { text := whole, isWord } body start stop new ∧ text = textSlice whole start stop

variable {bodies : List Regex} {isWord : Char → Bool} {text : List Char}

theorem Take.least (takes : Take bodies isWord text) {least : Nat}
    (bounds : ∀ body ∈ bodies, least ≤ body.shortest) : least ≤ text.length := by
  rcases takes with ⟨body, among, whole, start, stop, new, within, derived, rfl⟩
  rw [length_textSlice within]
  have := bounds body among
  have := derived.shortest_le
  omega

theorem Take.greatest (takes : Take bodies isWord text) {most : Nat}
    (bounds : ∀ body ∈ bodies, ∃ longest, body.longest = some longest ∧ longest ≤ most) :
    text.length ≤ most := by
  rcases takes with ⟨body, among, whole, start, stop, new, within, derived, rfl⟩
  rw [length_textSlice within]
  rcases bounds body among with ⟨longest, bounded, small⟩
  have := derived.le_longest longest bounded
  omega

theorem Take.held (takes : Take bodies isWord text) {accepted : ClassItem → Bool}
    (only : ∀ body ∈ bodies, body.takesOnly accepted = true) :
    ∀ character ∈ text, ∃ item, accepted item = true ∧ item.holds character = true := by
  rcases takes with ⟨body, among, whole, start, stop, new, _, derived, rfl⟩
  exact derived.textSlice_taken (only body among)

/-- The span of a field, which is not empty, and what it holds. -/
theorem span_of_readsField {regex : Regex} {wanted : List Nat} {found : RegexMatch}
    (reads : regex.readsField wanted = true) (matched : found.Of isWord regex text) :
    ∃ span, wanted.findSome? found.span = some span ∧ span.1 < span.2 ∧
      span.2 ≤ text.length ∧
      Take (regex.standing wanted) isWord (textSlice text span.1 span.2) := by
  rw [readsField, Bool.and_eq_true, List.all_eq_true] at reads
  rcases reads with ⟨taken, lengths⟩
  by_cases whole : wanted = [0]
  · have standing : regex.standing wanted = [regex] := if_pos whole
    rw [standing] at lengths ⊢
    have positive := of_decide_eq_true (lengths regex (List.mem_singleton_self regex))
    have long := matched.derived.shortest_le
    rw [whole]
    exact ⟨(found.start, found.stop), rfl, by dsimp only; omega, matched.stop_le, regex,
      List.mem_singleton_self regex, text, _, _, _, matched.stop_le, matched.derived, rfl⟩
  · have standing : regex.standing wanted = regex.groups.map (·.2) := if_neg whole
    rw [standing] at lengths ⊢
    simp only [whole, decide_false, Bool.false_or, Bool.and_eq_true, decide_eq_true_eq] at taken
    rcases RegexMatch.findSome?_span taken.1 (matched.derived.captured taken.2) with
      ⟨index, ⟨start, stop⟩, chosen, among⟩
    rcases matched.derived.capture_derives among with ⟨_, high, body, inner, grouped, holds⟩
    have member : body ∈ regex.groups.map (·.2) :=
      List.mem_map_of_mem (f := fun group : Nat × Regex => group.2) grouped
    have positive := of_decide_eq_true (lengths body member)
    have long := holds.shortest_le
    have within : stop ≤ text.length := Nat.le_trans high matched.stop_le
    exact ⟨(start, stop), chosen, by dsimp only; omega, within, body, member, text, start,
      stop, inner, within, holds, rfl⟩

end Regex

/-! ## Numbers -/

theorem not_textSpace_of_digit {character : Char}
    (digit : (decimalDigit? character).isSome = true) : isTextSpace character = false := by
  rw [decimalDigit?, Option.isSome_map, List.find?_isSome] at digit
  rcases digit with ⟨first, among, bounds⟩
  rw [Bool.and_eq_true, decide_eq_true_eq, decide_eq_true_eq] at bounds
  have apart : ∀ low ∈ decimalZeros, ∀ place < 10,
      low + place ∉ [0x20, 0x85, 0xA0, 0x1680, 0x2028, 0x2029, 0x202F, 0x205F, 0x3000] ∧
        ¬(0x09 ≤ low + place ∧ low + place ≤ 0x0D) ∧
        ¬(0x1C ≤ low + place ∧ low + place ≤ 0x1F) ∧
        ¬(0x2000 ≤ low + place ∧ low + place ≤ 0x200A) := by
    decide +kernel
  have here := apart first among (character.toNat - first) (by omega)
  rw [Nat.add_sub_cancel' bounds.1] at here
  simp only [isTextSpace, Bool.or_eq_false_iff, Bool.and_eq_false_iff, decide_eq_false_iff_not]
  refine ⟨⟨⟨here.1, ?_⟩, ?_⟩, ?_⟩ <;> omega

theorem literalDigits?_isSome {text : List Char} (nonempty : text ≠ [])
    (digits : ∀ character ∈ text, (decimalDigit? character).isSome = true) :
    ∃ values, literalDigits? text = some values ∧ values.length = text.length := by
  induction text using literalDigits?.induct with
  | case1 => exact absurd rfl nonempty
  | case2 last =>
      rcases Option.isSome_iff_exists.mp (digits last List.mem_cons_self) with ⟨value, read⟩
      exact ⟨[value], by rw [literalDigits?, read]; rfl, rfl⟩
  | case3 digit rest induction =>
      have underscore := digits '_' (List.mem_cons_of_mem _ List.mem_cons_self)
      exact absurd underscore (by decide)
  | case4 digit rest single marked induction =>
      have later : rest ≠ [] := fun empty => single empty
      rcases Option.isSome_iff_exists.mp (digits digit List.mem_cons_self) with ⟨value, read⟩
      rcases induction later (fun character among =>
        digits character (List.mem_cons_of_mem _ among)) with ⟨values, reads, long⟩
      refine ⟨value :: values, ?_, by rw [List.length_cons, List.length_cons, long]⟩
      rw [literalDigits?.eq_4 digit rest single marked, read, reads]
      rfl

/-- `int` reads every text of decimal digits that is not too long. -/
theorem textInt?_digits {text : List Char} (nonempty : text ≠ [])
    (digits : ∀ character ∈ text, (decimalDigit? character).isSome = true)
    (short : text.length ≤ maxStrDigits) : ∃ value : Nat, textInt? text = some (value : Int) := by
  have first : ∀ (items : List Char), (∀ character ∈ items,
      (decimalDigit? character).isSome = true) → items.dropWhile isTextSpace = items := by
    intro items allDigits
    rw [List.dropWhile_eq_self_iff]
    intro long
    rw [not_textSpace_of_digit (allDigits _ (List.getElem_mem long))]
    exact Bool.false_ne_true
  have stripped : stripSpace text = text := by
    have turned : text.reverse.dropWhile isTextSpace = text.reverse :=
      first text.reverse fun character among => digits character (List.mem_reverse.mp among)
    rw [stripSpace, first text digits, turned, List.reverse_reverse]
  rcases literalDigits?_isSome nonempty digits with ⟨values, read, long⟩
  have unsigned : ∃ value, unsignedInt? text = some value := by
    rw [unsignedInt?, read, Option.bind_some, if_neg (by omega)]
    exact ⟨_, rfl⟩
  rcases unsigned with ⟨value, unsigned⟩
  refine ⟨value, ?_⟩
  rw [textInt?, stripped]
  split
  · have minus := digits '-' List.mem_cons_self
    exact absurd minus (by decide)
  · have plus := digits '+' List.mem_cons_self
    exact absurd plus (by decide)
  · rw [unsigned]
    rfl
end Foundation
