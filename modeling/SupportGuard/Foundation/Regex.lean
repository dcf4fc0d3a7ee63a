import SupportGuard.Foundation.PyConversion

/-! # Regular expressions

The part of Python's `re` that has no back-references and looks behind by one character only,
with `re.IGNORECASE` throughout. A pattern is read from its text; a match is the first one
that backtracking finds. -/

namespace Foundation

inductive ClassItem
  | character (character : Char)
  | range (low high : Char)
  | space
  | digit
deriving DecidableEq

inductive Regex
  | empty
  | oneOf (items : List ClassItem)
  | anyCharacter
  | wordBoundary
  | textStart
  | textEnd
  | seq (first second : Regex)
  | alt (first second : Regex)
  | times (body : Regex) (low : Nat) (high : Option Nat)
  | lazily (body : Regex) (low : Nat)
  | group (index : Nat) (body : Regex)
  | notAhead (body : Regex)
  | notBehind (items : List ClassItem)
deriving DecidableEq

/-! ## Characters -/

/-- The small letter that stands for a letter when case is ignored. Four letters outside ASCII
stand for an ASCII one. -/
def foldLetter (character : Char) : Char :=
  if character.toNat = 0x130 ∨ character.toNat = 0x131 then 'i'
  else if character.toNat = 0x17F then 's'
  else if character.toNat = 0x212A then 'k'
  else character.toLower

def ClassItem.holds (character : Char) : ClassItem → Bool
  | .character expected => foldLetter character = foldLetter expected
  | .range low high =>
      [character, foldLetter character, (foldLetter character).toUpper].any fun variant =>
        low ≤ variant && variant ≤ high
  | .space => isTextSpace character
  | .digit => (decimalDigit? character).isSome

/-! ## Matching -/

/-- The spans of the groups, the last one first. -/
abbrev Captures := List (Nat × Nat × Nat)

/-- What is searched: the text up to the end of the search, and the characters of `\w`. -/
structure Subject where
  text : List Char
  isWord : Char → Bool

namespace Subject

def wordAt (subject : Subject) (position : Nat) : Bool :=
  (subject.text[position]?).any subject.isWord

def atBoundary (subject : Subject) (position : Nat) : Bool :=
  let before := position ≠ 0 && subject.wordAt (position - 1)
  before != subject.wordAt position

/-- `$` also stands before a line feed that ends the text. -/
def atEnd (subject : Subject) (position : Nat) : Bool :=
  position = subject.text.length ||
    (position + 1 = subject.text.length && subject.text[position]? = some '\n')

end Subject

/-- A way to go on from a position. -/
abbrev Next (β : Type) := Nat → Captures → Option β

namespace Regex

/-- Greedy repetition, at least `low` times and at most as often as the first argument says. A
turn that takes no character is the last one. -/
def repeated (body : {β : Type} → Nat → Captures → Next β → Option β) {β : Type} :
    Nat → Nat → Nat → Captures → Next β → Option β
  | 0, low, position, captures, next => if low = 0 then next position captures else none
  | high + 1, low, position, captures, next =>
      (body position captures fun after more =>
        if after = position ∧ low = 0 then none
        else repeated body high (low - 1) after more next).or
      (if low = 0 then next position captures else none)

/-- Repetition that goes on as soon as it may, at most as often as the first argument says. -/
def repeatedLazily (body : {β : Type} → Nat → Captures → Next β → Option β) {β : Type} :
    Nat → Nat → Nat → Captures → Next β → Option β
  | 0, low, position, captures, next => if low = 0 then next position captures else none
  | high + 1, low, position, captures, next =>
      (if low = 0 then next position captures else none).or
      (body position captures fun after more =>
        if after = position ∧ low = 0 then none
        else repeatedLazily body high (low - 1) after more next)

/-- Match from the position and go on; where that fails, try the next way to match. -/
def run (subject : Subject) : Regex → {β : Type} → Nat → Captures → Next β → Option β
  | .empty, _, position, captures, next => next position captures
  | .oneOf items, _, position, captures, next =>
      match subject.text[position]? with
      | some character =>
          if items.any (ClassItem.holds character) then next (position + 1) captures else none
      | none => none
  | .anyCharacter, _, position, captures, next =>
      match subject.text[position]? with
      | some character => if character ≠ '\n' then next (position + 1) captures else none
      | none => none
  | .wordBoundary, _, position, captures, next =>
      if subject.atBoundary position then next position captures else none
  | .textStart, _, position, captures, next =>
      if position = 0 then next position captures else none
  | .textEnd, _, position, captures, next =>
      if subject.atEnd position then next position captures else none
  | .seq first second, _, position, captures, next =>
      run subject first position captures fun after more =>
        run subject second after more next
  | .alt first second, _, position, captures, next =>
      (run subject first position captures next).or (run subject second position captures next)
  | .times body low high, _, position, captures, next =>
      repeated (fun {_} => run subject body) (high.getD (subject.text.length + 1)) low position
        captures next
  | .lazily body low, _, position, captures, next =>
      repeatedLazily (fun {_} => run subject body) (subject.text.length + 1) low position captures
        next
  | .group index body, _, position, captures, next =>
      run subject body position captures fun after more =>
        next after ((index, position, after) :: more)
  | .notAhead body, _, position, captures, next =>
      match run subject body position captures fun _ _ => some () with
      | some () => none
      | none => next position captures
  | .notBehind items, _, position, captures, next =>
      match position with
      | 0 => next position captures
      | previous + 1 =>
          if (subject.text[previous]?).any fun character =>
            items.any (ClassItem.holds character) then none
          else next position captures

end Regex

/-- Where a match stands, with the spans of its groups. -/
structure RegexMatch where
  start : Nat
  stop : Nat
  captures : Captures := []
deriving DecidableEq

namespace RegexMatch

/-- `match.span(index)`; none where the group has taken no part. -/
def span (found : RegexMatch) (index : Nat) : Option (Nat × Nat) :=
  if index = 0 then some (found.start, found.stop)
  else (found.captures.find? (·.1 = index)).map (·.2)

end RegexMatch

def textSlice (text : List Char) (start stop : Nat) : List Char :=
  (text.take stop).drop start

namespace Regex

variable (isWord : Char → Bool) (regex : Regex)

/-- A match that starts here. After an empty match the next one has to take a character. -/
def matchAt (text : List Char) (advance : Bool) (position : Nat) : Option RegexMatch :=
  regex.run { text, isWord } position [] fun stop captures =>
    if advance && stop = position then none else some { start := position, stop, captures }

/-- The first match at or after the position; the first argument counts the places. -/
def searchFrom (text : List Char) : Nat → Bool → Nat → Option RegexMatch
  | 0, _, _ => none
  | places + 1, advance, position =>
      (matchAt isWord regex text advance position).or
        (searchFrom text places false (position + 1))

/-- `pattern.search(text)`. -/
def search (text : List Char) : Option RegexMatch :=
  searchFrom isWord regex text (text.length + 1) false 0

/-- Whether `pattern.search` finds something. -/
def found (text : List Char) : Bool :=
  (search isWord regex text).isSome

/-- Whether `pattern.fullmatch` finds something. -/
def fullmatches (text : List Char) : Bool :=
  (regex.run { text, isWord } 0 [] fun stop _ =>
    if stop = text.length then some () else none).isSome

def matchesFrom (text : List Char) : Nat → Bool → Nat → List RegexMatch
  | 0, _, _ => []
  | fuel + 1, advance, position =>
      match searchFrom isWord regex text (text.length + 1 - position) advance position with
      | none => []
      | some found =>
          found :: matchesFrom text fuel (found.stop = found.start) found.stop

/-- `pattern.finditer(text, start, stop)`. Each position ends one match that has characters
and one that has none at most. -/
def finditer (text : List Char) (start stop : Nat) : List RegexMatch :=
  let text := text.take stop
  matchesFrom isWord regex text (2 * text.length + 2) false (min start text.length)

/-- `pattern.split(text)` of a pattern without groups. -/
def splitText (text : List Char) : List (List Char) :=
  let boundaries := finditer isWord regex text 0 text.length
  let starts := 0 :: boundaries.map (·.stop)
  let stops := boundaries.map (·.start) ++ [text.length]
  List.zipWith (textSlice text) starts stops

end Regex

/-! ## Reading a pattern -/

namespace RegexReader

/-- A class up to its closing bracket. -/
def classItems : Nat → List Char → Option (List ClassItem × List Char)
  | 0, _ => none
  | _, [] => none
  | _, ']' :: rest => some ([], rest)
  | fuel + 1, '\\' :: 's' :: rest => do
      let (items, rest) ← classItems fuel rest
      return (.space :: items, rest)
  | fuel + 1, '\\' :: 'n' :: rest => do
      let (items, rest) ← classItems fuel rest
      return (.character '\n' :: items, rest)
  | fuel + 1, low :: '-' :: high :: rest => do
      if high = ']' then return ([.character low, .character '-'], rest)
      let (items, rest) ← classItems fuel rest
      return (.range low high :: items, rest)
  | fuel + 1, character :: rest => do
      let (items, rest) ← classItems fuel rest
      return (.character character :: items, rest)

def digits (input : List Char) : Nat × List Char :=
  ((input.takeWhile Char.isDigit).foldl
      (fun value digit => value * 10 + (digit.toNat - '0'.toNat)) 0,
    input.dropWhile Char.isDigit)

/-- The repetition that may follow. -/
def quantified (body : Regex) : List Char → Option (Regex × List Char)
  | '?' :: rest => some (.times body 0 (some 1), rest)
  | '*' :: rest => some (.times body 0 none, rest)
  | '+' :: '?' :: rest => some (.lazily body 1, rest)
  | '+' :: rest => some (.times body 1 none, rest)
  | '\x7b' :: rest =>
      let (low, rest) := digits rest
      match rest with
      | ',' :: rest =>
          let (high, rest) := digits rest
          match rest with
          | '\x7d' :: rest => some (.times body low (some high), rest)
          | _ => none
      | _ => none
  | rest => some (body, rest)

/-- An escape outside a class. -/
def escaped : Char → Regex
  | 'b' => .wordBoundary
  | 's' => .oneOf [.space]
  | 'd' => .oneOf [.digit]
  | 'n' => .oneOf [.character '\n']
  | character => .oneOf [.character character]

mutual

/-- Alternatives up to a closing bracket or the end, with the number of the next group. -/
def alternatives : Nat → Nat → List Char → Option (Regex × Nat × List Char)
  | 0, _, _ => none
  | fuel + 1, index, input => do
      let (first, index, rest) ← sequence fuel index input
      match rest with
      | '|' :: rest =>
          let (second, index, rest) ← alternatives fuel index rest
          return (.alt first second, index, rest)
      | rest => return (first, index, rest)

def sequence : Nat → Nat → List Char → Option (Regex × Nat × List Char)
  | 0, _, _ => none
  | _, index, [] => some (.empty, index, [])
  | _, index, ')' :: rest => some (.empty, index, ')' :: rest)
  | _, index, '|' :: rest => some (.empty, index, '|' :: rest)
  | fuel + 1, index, input => do
      let (body, index, rest) ← atom fuel index input
      let (first, rest) ← quantified body rest
      let (second, index, rest) ← sequence fuel index rest
      return (.seq first second, index, rest)

def atom : Nat → Nat → List Char → Option (Regex × Nat × List Char)
  | 0, _, _ => none
  | _, _, [] => none
  | fuel + 1, index, '(' :: '?' :: ':' :: rest => do
      let (body, index, rest) ← alternatives fuel index rest
      match rest with
      | ')' :: rest => return (body, index, rest)
      | _ => none
  | fuel + 1, index, '(' :: '?' :: '!' :: rest => do
      let (body, index, rest) ← alternatives fuel index rest
      match rest with
      | ')' :: rest => return (.notAhead body, index, rest)
      | _ => none
  | _, index, '(' :: '?' :: '<' :: '!' :: '[' :: rest => do
      let (items, rest) ← classItems (rest.length + 1) rest
      match rest with
      | ')' :: rest => return (.notBehind items, index, rest)
      | _ => none
  | fuel + 1, index, '(' :: rest => do
      let rest := match rest with
        | '?' :: 'P' :: '<' :: named => (named.dropWhile (· ≠ '>')).drop 1
        | unnamed => unnamed
      let (body, next, rest) ← alternatives fuel (index + 1) rest
      match rest with
      | ')' :: rest => return (.group index body, next, rest)
      | _ => none
  | _, index, '[' :: rest => do
      let (items, rest) ← classItems (rest.length + 1) rest
      return (.oneOf items, index, rest)
  | _, index, '.' :: rest => some (.anyCharacter, index, rest)
  | _, index, '^' :: rest => some (.textStart, index, rest)
  | _, index, '$' :: rest => some (.textEnd, index, rest)
  | _, index, '\\' :: character :: rest => some (escaped character, index, rest)
  | _, index, character :: rest => some (.oneOf [.character character], index, rest)

end

end RegexReader

namespace Regex

/-- `re.compile`; none where the text is no pattern. -/
def compile? (input : List Char) : Option Regex :=
  match RegexReader.alternatives (3 * input.length + 3) 1 input with
  | some (regex, _, []) => some regex
  | _ => none

/-- A pattern that is written as several literals. -/
def compile (literals : List String) : Regex :=
  (compile? (literals.flatMap String.toList)).getD .empty

end Regex

end Foundation
