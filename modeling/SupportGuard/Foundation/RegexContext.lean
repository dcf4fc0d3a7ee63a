import SupportGuard.Foundation.RegexDerivation

/-! # Patterns that look at nothing around them

A pattern without boundaries, ends and looks to either side finds in a text what it finds in a
part of the text. A match of any pattern stays between the ends of its search. -/

namespace Foundation

namespace Regex

/-- The pattern looks only at the characters that it takes. -/
def isPlain : Regex → Bool
  | .empty => true
  | .oneOf _ => true
  | .anyCharacter => true
  | .seq first second => isPlain first && isPlain second
  | .alt first second => isPlain first && isPlain second
  | .times body _ _ => isPlain body
  | .lazily body _ => isPlain body
  | .group _ body => isPlain body
  | _ => false

/-- The characters of the first subject stand in the second one, further on. -/
structure StandsIn (part whole : Subject) (offset : Nat) : Prop where
  characters : ∀ position character, part.text[position]? = some character →
    whole.text[position + offset]? = some character
  shorter : part.text.length ≤ whole.text.length

/-- What can go on from a position can go on from the same place in the whole. -/
def GoesOn {β γ : Type} (offset : Nat) (next : Next β) (further : Next γ) : Prop :=
  ∀ position captures captures', (next position captures).isSome →
    (further (position + offset) captures').isSome

/-- What the body finds in the part it finds in the whole. -/
def Carries (offset : Nat) (body body' : {β : Type} → Nat → Captures → Next β → Option β) : Prop :=
  ∀ {β γ : Type} {next : Next β} {further : Next γ} (position : Nat)
      (captures captures' : Captures),
    GoesOn offset next further → (body position captures next).isSome →
      (body' (position + offset) captures' further).isSome

section Carried

variable {part whole : Subject} {offset : Nat}
  {body body' : {β : Type} → Nat → Captures → Next β → Option β}

theorem done_carries {β γ : Type} {next : Next β} {further : Next γ}
    (goesOn : GoesOn offset next further) {low position : Nat} {captures : Captures}
    (captures' : Captures) (done : (if low = 0 then next position captures else none).isSome) :
    (if low = 0 then further (position + offset) captures' else none).isSome := by
  split at done
  · next none =>
    rw [if_pos none]
    exact goesOn position captures captures' done
  · cases done

/-- One more turn goes on with the rest, as long as it has moved. -/
theorem turn_carries (carries : Carries offset body body') {β γ : Type} {rest : Next β}
    {rest' : Next γ} (goesOn : GoesOn offset rest rest') {low position : Nat}
    {captures captures' : Captures}
    (turn : (body position captures fun after new =>
      if after = position ∧ low = 0 then none else rest after new).isSome) :
    (body' (position + offset) captures' fun after new =>
      if after = position + offset ∧ low = 0 then none else rest' after new).isSome := by
  apply carries position captures captures' _ turn
  intro after new new' found
  beta_reduce at found ⊢
  split at found
  · cases found
  · next goes =>
    have goes' : ¬(after + offset = position + offset ∧ low = 0) := by omega
    rw [if_neg goes']
    exact goesOn after new new' found

theorem repeated_carries (carries : Carries offset body body') {β γ : Type} {next : Next β}
    {further : Next γ} (goesOn : GoesOn offset next further) {turns : Nat} :
    ∀ {more low position : Nat} (captures captures' : Captures), turns ≤ more →
      (repeated body turns low position captures next).isSome →
        (repeated body' more low (position + offset) captures' further).isSome := by
  induction turns with
  | zero =>
      intro more low position captures captures' _ found
      rw [repeated] at found
      have stops := done_carries goesOn captures' found
      cases more with
      | zero => exact stops
      | succ more => rw [repeated, Option.isSome_or, stops, Bool.or_true]
  | succ turns induction =>
      intro more low position captures captures' bound found
      cases more with
      | zero => omega
      | succ more =>
          rw [repeated, Option.isSome_or, Bool.or_eq_true] at found ⊢
          rcases found with turn | done
          · left
            apply turn_carries carries _ turn
            intro after new new'
            exact induction new new' (Nat.le_of_succ_le_succ bound)
          · right
            exact done_carries goesOn captures' done

theorem repeatedLazily_carries (carries : Carries offset body body') {β γ : Type} {next : Next β}
    {further : Next γ} (goesOn : GoesOn offset next further) {turns : Nat} :
    ∀ {more low position : Nat} (captures captures' : Captures), turns ≤ more →
      (repeatedLazily body turns low position captures next).isSome →
        (repeatedLazily body' more low (position + offset) captures' further).isSome := by
  induction turns with
  | zero =>
      intro more low position captures captures' _ found
      rw [repeatedLazily] at found
      have stops := done_carries goesOn captures' found
      cases more with
      | zero => exact stops
      | succ more => rw [repeatedLazily, Option.isSome_or, stops, Bool.true_or]
  | succ turns induction =>
      intro more low position captures captures' bound found
      cases more with
      | zero => omega
      | succ more =>
          rw [repeatedLazily, Option.isSome_or, Bool.or_eq_true] at found ⊢
          rcases found with done | turn
          · left
            exact done_carries goesOn captures' done
          · right
            apply turn_carries carries _ turn
            intro after new new'
            exact induction new new' (Nat.le_of_succ_le_succ bound)

theorem run_carries (stands : StandsIn part whole offset) {regex : Regex}
    (plain : regex.isPlain = true) : Carries offset (run part regex) (run whole regex) := by
  induction regex with
  | empty => exact fun position captures captures' goesOn found => goesOn _ captures captures' found
  | oneOf items =>
      intro β γ next further position captures captures' goesOn found
      simp only [run] at found ⊢
      split at found
      · next character here =>
        rw [stands.characters position character here]
        split at found
        · next holds =>
          simp only [if_pos holds]
          rw [Nat.add_right_comm]
          exact goesOn (position + 1) captures captures' found
        · cases found
      · cases found
  | anyCharacter =>
      intro β γ next further position captures captures' goesOn found
      simp only [run] at found ⊢
      split at found
      · next character here =>
        rw [stands.characters position character here]
        split at found
        · next line =>
          simp only [if_pos line]
          rw [Nat.add_right_comm]
          exact goesOn (position + 1) captures captures' found
        · cases found
      · cases found
  | seq first second firstCarries secondCarries =>
      rw [isPlain, Bool.and_eq_true] at plain
      intro β γ next further position captures captures' goesOn found
      simp only [run] at found ⊢
      apply firstCarries plain.1 position captures captures' _ found
      intro after new new' rest
      exact secondCarries plain.2 after new new' goesOn rest
  | alt first second firstCarries secondCarries =>
      rw [isPlain, Bool.and_eq_true] at plain
      intro β γ next further position captures captures' goesOn found
      simp only [run, Option.isSome_or, Bool.or_eq_true] at found ⊢
      rcases found with one | other
      · exact .inl (firstCarries plain.1 position captures captures' goesOn one)
      · exact .inr (secondCarries plain.2 position captures captures' goesOn other)
  | times body low high carries =>
      intro β γ next further position captures captures' goesOn found
      simp only [run] at found ⊢
      apply repeated_carries (carries plain) goesOn captures captures' _ found
      cases high with
      | none => exact Nat.succ_le_succ stands.shorter
      | some most => exact Nat.le_refl most
  | lazily body low carries =>
      intro β γ next further position captures captures' goesOn found
      simp only [run] at found ⊢
      exact repeatedLazily_carries (carries plain) goesOn captures captures'
        (Nat.succ_le_succ stands.shorter) found
  | group index body carries =>
      intro β γ next further position captures captures' goesOn found
      simp only [run] at found ⊢
      apply carries plain position captures captures' _ found
      intro after new new' rest
      exact goesOn after _ _ rest
  | _ => cases plain

end Carried

/-! ## Searches -/

variable {isWord : Char → Bool} {text : List Char} {regex : Regex}

theorem isSome_searchFrom_iff :
    ∀ {places position : Nat},
      (searchFrom isWord regex text places false position).isSome ↔
        ∃ place < places, (matchAt isWord regex text false (position + place)).isSome
  | 0, position => by simp [searchFrom]
  | places + 1, position => by
      rw [searchFrom, Option.isSome_or, Bool.or_eq_true, isSome_searchFrom_iff]
      constructor
      · intro found
        rcases found with here | ⟨place, bound, later⟩
        · exact ⟨0, Nat.succ_pos _, here⟩
        · rw [Nat.add_assoc, Nat.add_comm 1] at later
          exact ⟨place + 1, Nat.succ_lt_succ bound, later⟩
      · intro found
        obtain ⟨place, bound, matched⟩ := found
        cases place with
        | zero => exact .inl matched
        | succ place =>
            rw [Nat.add_comm place, ← Nat.add_assoc] at matched
            exact .inr ⟨place, Nat.lt_of_succ_lt_succ bound, matched⟩

theorem standsIn_textSlice (isWord : Char → Bool) (text : List Char) (start stop : Nat) :
    StandsIn { text := textSlice text start stop, isWord } { text, isWord } start where
  characters position character here := by
    rw [textSlice, List.getElem?_drop, List.getElem?_take] at here
    split at here
    · rw [Nat.add_comm]
      exact here
    · cases here
  shorter := by
    simp only [textSlice, List.length_drop, List.length_take]
    omega

/-- A plain pattern that is found in a part of the text is found in the text. -/
theorem found_of_textSlice (plain : regex.isPlain = true) {start stop : Nat}
    (within : start ≤ text.length) (found : regex.found isWord (textSlice text start stop) = true) :
    regex.found isWord text = true := by
  rw [Regex.found, search, isSome_searchFrom_iff] at found ⊢
  obtain ⟨place, bound, matched⟩ := found
  apply Exists.intro (place + start)
  constructor
  · rw [textSlice, List.length_drop, List.length_take] at bound
    omega
  · rw [Nat.zero_add] at matched ⊢
    apply run_carries (standsIn_textSlice isWord text start stop) plain place [] [] _ matched
    intro position captures captures' _
    rfl

/-! ## Where a search finds -/

theorem matchesFrom_start_le {found : RegexMatch} {fuel : Nat} :
    ∀ {advance : Bool} {position : Nat}, position ≤ text.length →
      found ∈ matchesFrom isWord regex text fuel advance position → position ≤ found.start := by
  induction fuel with
  | zero => exact fun _ among => absurd among List.not_mem_nil
  | succ fuel induction =>
      intro advance position within among
      rw [matchesFrom] at among
      split at among
      · cases among
      · next first chosen =>
        obtain ⟨matched, low⟩ := searchFrom_of (by omega) chosen
        rcases List.mem_cons.mp among with same | later
        · rw [same]
          exact low
        · have further := induction matched.stop_le later
          have taken := matched.derived.le_after
          omega

theorem finditer_start_le {found : RegexMatch} {start stop : Nat} (ordered : start ≤ stop)
    (within : start ≤ text.length) (among : found ∈ finditer isWord regex text start stop) :
    start ≤ found.start := by
  have bound := matchesFrom_start_le (Nat.min_le_right _ _) among
  rw [List.length_take] at bound
  omega

theorem matchesFrom_pairwise {fuel : Nat} :
    ∀ {advance : Bool} {position : Nat}, position ≤ text.length →
      (matchesFrom isWord regex text fuel advance position).Pairwise fun first second =>
        first.stop ≤ second.start := by
  induction fuel with
  | zero => exact fun _ => .nil
  | succ fuel induction =>
      intro advance position within
      rw [matchesFrom]
      split
      · exact .nil
      · next first chosen =>
        have matched := (searchFrom_of (by omega) chosen).1
        exact .cons (fun later among => matchesFrom_start_le matched.stop_le among)
          (induction matched.stop_le)

/-- The matches stand one behind the other. -/
theorem finditer_pairwise {start stop : Nat} :
    (finditer isWord regex text start stop).Pairwise fun first second =>
      first.stop ≤ second.start :=
  matchesFrom_pairwise (Nat.min_le_right _ _)

end Regex

/-- A group stands inside the match. -/
theorem RegexMatch.Of.span_within {found : RegexMatch} {isWord : Char → Bool} {regex : Regex}
    {text : List Char} (matched : found.Of isWord regex text) {wanted : List Nat} {span : Nat × Nat}
    (chosen : wanted.findSome? found.span = some span) :
    found.start ≤ span.1 ∧ span.2 ≤ found.stop := by
  obtain ⟨index, _, given⟩ := List.exists_of_findSome?_eq_some chosen
  rw [RegexMatch.span] at given
  split at given
  · cases given
    exact ⟨Nat.le_refl _, Nat.le_refl _⟩
  · obtain ⟨capture, first, span_eq⟩ := Option.map_eq_some_iff.mp given
    obtain ⟨own, place⟩ := capture
    cases span_eq
    obtain ⟨low, high, _⟩ := matched.derived.capture_derives (List.mem_of_find?_eq_some first)
    exact ⟨low, high⟩

end Foundation
