import Mathlib.Tactic.IntervalCases
import SupportGuard.Foundation.Json

/-! # Compact JSON text

The separator-free text of a JSON tree, a reader for the whole JSON grammar,
and the proof that reading the text of a tree returns that tree. Text is a list
of Unicode scalars throughout; `JsonText.encode` fixes the member order. -/

namespace Foundation

namespace JsonText

/-! ## Writing -/

def hexDigit (value : Nat) : Char :=
  Nat.digitChar value

/-- Only the quote, the backslash and the C0 controls are escaped; every other
scalar stands for itself. -/
def escape (character : Char) : List Char :=
  if character = '"' then ['\\', '"']
  else if character = '\\' then ['\\', '\\']
  else if character = '\n' then ['\\', 'n']
  else if character = '\r' then ['\\', 'r']
  else if character = '\t' then ['\\', 't']
  else if character = '\x08' then ['\\', 'b']
  else if character = '\x0c' then ['\\', 'f']
  else if character.toNat < 0x20 then
    ['\\', 'u', '0', '0', hexDigit (character.toNat / 16),
      hexDigit (character.toNat % 16)]
  else [character]

def writeString (text : String) : List Char :=
  '"' :: (text.toList.flatMap escape ++ ['"'])

def writeInteger : Int → List Char
  | .ofNat value => Nat.toDigits 10 value
  | .negSucc value => '-' :: Nat.toDigits 10 (value + 1)

mutual
/-- The text of a tree, with object members in the order they are listed. -/
def write : Json → List Char
  | .null => ['n', 'u', 'l', 'l']
  | .bool true => ['t', 'r', 'u', 'e']
  | .bool false => ['f', 'a', 'l', 's', 'e']
  | .integer value => writeInteger value
  | .float value => value.text
  | .notANumber => ['N', 'a', 'N']
  | .infinity false => ['I', 'n', 'f', 'i', 'n', 'i', 't', 'y']
  | .infinity true => ['-', 'I', 'n', 'f', 'i', 'n', 'i', 't', 'y']
  | .string value => writeString value
  | .array items => '[' :: (writeItems items ++ [']'])
  | .object members => '{' :: (writeMembers members ++ ['}'])

def writeItems : List Json → List Char
  | [] => []
  | [item] => write item
  | item :: next :: rest => write item ++ ',' :: writeItems (next :: rest)

def writeMembers : List (String × Json) → List Char
  | [] => []
  | [(key, value)] => writeString key ++ ':' :: write value
  | (key, value) :: next :: rest =>
      writeString key ++ ':' :: (write value ++ ',' :: writeMembers (next :: rest))
end

/-- The canonical text: members sorted by key at every level. -/
def encode (value : Json) : List Char :=
  write value.sortKeys

/-- The UTF-16 units of a character, as escapes. -/
def escapeUnit (unit : Nat) : List Char :=
  ['\\', 'u', hexDigit (unit / 4096 % 16), hexDigit (unit / 256 % 16), hexDigit (unit / 16 % 16),
    hexDigit (unit % 16)]

/-- Only the printable ASCII characters stand for themselves. -/
def escapeAscii (character : Char) : List Char :=
  if 0x20 ≤ character.toNat ∧ character.toNat < 0x7F then [character]
  else if character.toNat < 0x10000 then escapeUnit character.toNat
  else
    escapeUnit (0xD800 + (character.toNat - 0x10000) / 0x400) ++
      escapeUnit (0xDC00 + (character.toNat - 0x10000) % 0x400)

/-- The canonical text in ASCII; what is not ASCII stands in strings only. -/
def encodeAscii (value : Json) : List Char :=
  (encode value).flatMap escapeAscii

/-- The UTF-8 bytes of a text. -/
def utf8 (text : List Char) : List UInt8 :=
  text.flatMap String.utf8EncodeChar

/-! ## Reading -/

def isWhitespace (character : Char) : Bool :=
  character == ' ' || character == '\n' || character == '\r' || character == '\t'

def skipWhitespace (input : List Char) : List Char :=
  input.dropWhile isWhitespace

def hexValue (character : Char) : Option Nat :=
  if character.isDigit then some (character.toNat - '0'.toNat)
  else if 'a' ≤ character ∧ character ≤ 'f' then
    some (character.toNat - 'a'.toNat + 10)
  else if 'A' ≤ character ∧ character ≤ 'F' then
    some (character.toNat - 'A'.toNat + 10)
  else none

/-- Four hexadecimal digits. -/
def readUnit : List Char → Option (Nat × List Char)
  | first :: second :: third :: fourth :: rest => do
      let high ← hexValue first
      let middle ← hexValue second
      let low ← hexValue third
      let last ← hexValue fourth
      some (((high * 16 + middle) * 16 + low) * 16 + last, rest)
  | _ => none

/-- The scalar behind `\u`: one unit, or a surrogate pair. A lone surrogate is
no scalar and is refused. -/
def readEscapedUnit (input : List Char) : Option (Char × List Char) := do
  let (unit, rest) ← readUnit input
  if 0xD800 ≤ unit ∧ unit < 0xDC00 then
    match rest with
    | '\\' :: 'u' :: rest =>
        let (low, rest) ← readUnit rest
        if 0xDC00 ≤ low ∧ low < 0xE000 then
          some (Char.ofNat (0x10000 + (unit - 0xD800) * 0x400 + (low - 0xDC00)), rest)
        else none
    | _ => none
  else if 0xDC00 ≤ unit ∧ unit < 0xE000 then none
  else some (Char.ofNat unit, rest)

def readEscape : List Char → Option (Char × List Char)
  | [] => none
  | character :: rest =>
      if character = '"' then some ('"', rest)
      else if character = '\\' then some ('\\', rest)
      else if character = '/' then some ('/', rest)
      else if character = 'n' then some ('\n', rest)
      else if character = 'r' then some ('\r', rest)
      else if character = 't' then some ('\t', rest)
      else if character = 'b' then some ('\x08', rest)
      else if character = 'f' then some ('\x0c', rest)
      else if character = 'u' then readEscapedUnit rest
      else none

/-- The characters up to the closing quote. The fuel bounds their number. -/
def readCharacters : Nat → List Char → Option (List Char × List Char)
  | 0, _ => none
  | _ + 1, [] => none
  | fuel + 1, character :: rest =>
      if character = '"' then some ([], rest)
      else if character = '\\' then do
        let (scalar, rest) ← readEscape rest
        let (scalars, rest) ← readCharacters fuel rest
        some (scalar :: scalars, rest)
      else if character.toNat < 0x20 then none
      else do
        let (scalars, rest) ← readCharacters fuel rest
        some (character :: scalars, rest)

/-- A string literal whose opening quote has been consumed. -/
def readString (input : List Char) : Option (String × List Char) := do
  let (scalars, rest) ← readCharacters (input.length + 1) input
  some (String.ofList scalars, rest)

def readDigits (digits : List Char) : Option Nat :=
  match digits with
  | [] => none
  | first :: rest =>
      if (first :: rest).all Char.isDigit ∧ (first ≠ '0' ∨ rest = []) then
        some (Nat.ofDigitChars 10 (first :: rest) 0)
      else none

def readInteger : List Char → Option Int
  | [] => none
  | first :: rest =>
      if first = '-' then
        (readDigits rest).map fun value => -(value : Int)
      else (readDigits (first :: rest)).map fun value => (value : Int)

/-- Numbers are delimited by maximal munch over the number characters. -/
def readNumber (input : List Char) : Option (Json × List Char) :=
  let text := input.takeWhile isNumberCharacter
  let rest := input.dropWhile isNumberCharacter
  match readInteger text with
  | some value => some (.integer value, rest)
  | none =>
      if valid : isFloatText text = true then some (.float ⟨text, valid⟩, rest)
      else none

/-- Consume a fixed word. -/
def readWord (word input : List Char) : Option (List Char) :=
  if word.isPrefixOf input then some (input.drop word.length) else none

def readScalar (input : List Char) : Option (Json × List Char) :=
  match readWord ['n', 'u', 'l', 'l'] input with
  | some rest => some (.null, rest)
  | none => match readWord ['t', 'r', 'u', 'e'] input with
    | some rest => some (.bool true, rest)
    | none => match readWord ['f', 'a', 'l', 's', 'e'] input with
      | some rest => some (.bool false, rest)
      | none => match readWord ['N', 'a', 'N'] input with
        | some rest => some (.notANumber, rest)
        | none => match readWord ['I', 'n', 'f', 'i', 'n', 'i', 't', 'y'] input with
          | some rest => some (.infinity false, rest)
          | none => match readWord ['-', 'I', 'n', 'f', 'i', 'n', 'i', 't', 'y'] input with
            | some rest => some (.infinity true, rest)
            | none => readNumber input

mutual
def readValue : Nat → List Char → Option (Json × List Char)
  | 0, _ => none
  | fuel + 1, input =>
      match skipWhitespace input with
      | [] => none
      | first :: rest =>
          if first = '"' then do
            let (text, rest) ← readString rest
            some (.string text, rest)
          else if first = '[' then
            match skipWhitespace rest with
            | [] => none
            | next :: after =>
                if next = ']' then some (.array [], after)
                else do
                  let (items, rest) ← readItems fuel (next :: after)
                  some (.array items, rest)
          else if first = '{' then
            match skipWhitespace rest with
            | [] => none
            | next :: after =>
                if next = '}' then some (.object [], after)
                else do
                  let (members, rest) ← readMembers fuel (next :: after)
                  some (.object members, rest)
          else readScalar (first :: rest)

/-- One or more array items and the closing bracket. -/
def readItems : Nat → List Char → Option (List Json × List Char)
  | 0, _ => none
  | fuel + 1, input => do
      let (item, rest) ← readValue fuel input
      match skipWhitespace rest with
      | [] => none
      | next :: after =>
          if next = ',' then do
            let (items, rest) ← readItems fuel after
            some (item :: items, rest)
          else if next = ']' then some ([item], after)
          else none

/-- One or more object members and the closing brace. -/
def readMembers : Nat → List Char → Option (List (String × Json) × List Char)
  | 0, _ => none
  | fuel + 1, input =>
      match skipWhitespace input with
      | [] => none
      | quote :: body =>
          if quote = '"' then do
            let (key, rest) ← readString body
            match skipWhitespace rest with
            | [] => none
            | colon :: after =>
                if colon = ':' then do
                  let (value, rest) ← readValue fuel after
                  match skipWhitespace rest with
                  | [] => none
                  | next :: after =>
                      if next = ',' then do
                        let (members, rest) ← readMembers fuel after
                        some ((key, value) :: members, rest)
                      else if next = '}' then some ([(key, value)], after)
                      else none
                else none
          else none
end

/-- Read a whole document. -/
def decode (text : List Char) : Option Json := do
  let (value, rest) ← readValue (text.length + 1) text
  if skipWhitespace rest = [] then some value else none

/-- Read a whole document from its bytes. -/
def decodeBytes (bytes : List UInt8) : Option Json := do
  let text ← String.fromUTF8? bytes.toByteArray
  decode text.toList

/-! ## Strings read back -/

theorem hexValue_hexDigit {value : Nat} (bound : value < 16) :
    hexValue (hexDigit value) = some value := by
  interval_cases value <;> decide

theorem readEscapedUnit_control {character : Char} (rest : List Char)
    (control : character.toNat < 0x20) :
    readEscapedUnit ('0' :: '0' :: hexDigit (character.toNat / 16) ::
        hexDigit (character.toNat % 16) :: rest) = some (character, rest) := by
  have zero : hexValue '0' = some 0 := by decide
  have high : hexValue (hexDigit (character.toNat / 16)) =
      some (character.toNat / 16) := hexValue_hexDigit (by omega)
  have low : hexValue (hexDigit (character.toNat % 16)) =
      some (character.toNat % 16) := hexValue_hexDigit (by omega)
  have recombined : character.toNat / 16 * 16 + character.toNat % 16 =
      character.toNat := by omega
  have notHigh : ¬(0xD800 ≤ character.toNat ∧ character.toNat < 0xDC00) := by omega
  have notLow : ¬(0xDC00 ≤ character.toNat ∧ character.toNat < 0xE000) := by omega
  simp [readEscapedUnit, readUnit, zero, high, low, recombined, notHigh, notLow]

/-- A character is written as itself, or as a backslash and a body that reads
back as the character. -/
theorem escape_cases (character : Char) :
    (escape character = [character] ∧ character ≠ '"' ∧ character ≠ '\\' ∧
        ¬character.toNat < 0x20) ∨
      ∃ body, escape character = '\\' :: body ∧
        ∀ rest, readEscape (body ++ rest) = some (character, rest) := by
  unfold escape
  split_ifs with quote backslash newline carriage tab backspace feed control
  rotate_left 7
  · exact .inr ⟨_, rfl, fun rest => by
      simpa [readEscape] using readEscapedUnit_control rest control⟩
  · exact .inl ⟨rfl, quote, backslash, control⟩
  all_goals
    subst character
    exact .inr ⟨_, rfl, fun rest => by simp [readEscape]⟩

/-- Reading one written character consumes exactly what was written. -/
theorem readCharacters_escape (character : Char) (fuel : Nat) (rest : List Char) :
    readCharacters (fuel + 1) (escape character ++ rest) =
      (readCharacters fuel rest).bind fun result =>
        some (character :: result.1, result.2) := by
  rcases escape_cases character with
    ⟨written, notQuote, notBackslash, notControl⟩ | ⟨body, written, read⟩
  · simp [written, readCharacters, notQuote, notBackslash, notControl]
  · simp [written, readCharacters, read]

theorem readCharacters_flatMap (scalars rest : List Char) :
    ∀ fuel, scalars.length < fuel →
      readCharacters fuel (scalars.flatMap escape ++ '"' :: rest) =
        some (scalars, rest) := by
  induction scalars with
  | nil =>
      intro fuel positive
      cases fuel with
      | zero => omega
      | succ fuel => simp [readCharacters]
  | cons head tail induction =>
      intro fuel enough
      cases fuel with
      | zero => simp at enough
      | succ fuel =>
          rw [List.flatMap_cons, List.append_assoc, readCharacters_escape,
            induction fuel (by simpa using enough)]
          rfl

theorem length_le_flatMap_escape (scalars : List Char) :
    scalars.length ≤ (scalars.flatMap escape).length := by
  induction scalars with
  | nil => simp
  | cons head tail induction =>
      have positive : 0 < (escape head).length := by
        unfold escape
        repeat' split
        all_goals simp
      rw [List.flatMap_cons, List.length_append, List.length_cons]
      omega

theorem readString_writeString (text : String) (rest : List Char) :
    readString (text.toList.flatMap escape ++ '"' :: rest) = some (text, rest) := by
  have bound := length_le_flatMap_escape text.toList
  unfold readString
  rw [readCharacters_flatMap text.toList rest]
  · simp
  · simp only [List.length_append, List.length_cons]
    omega

/-! ## Numbers read back -/

/-- What may follow a number: nothing, or a character no number contains. -/
def Delimited (rest : List Char) : Prop :=
  ∀ character ∈ rest.head?, isNumberCharacter character = false

theorem Delimited.nil : Delimited [] := by
  intro character member
  cases member

theorem Delimited.cons {character : Char} (rest : List Char)
    (other : isNumberCharacter character = false) :
    Delimited (character :: rest) := by
  intro head member
  cases member
  exact other

/-- Only a number needs a delimiter after it. -/
def Terminated (value : Json) (rest : List Char) : Prop :=
  match value with
  | .integer _ => Delimited rest
  | .float _ => Delimited rest
  | _ => True

theorem Delimited.terminated {rest : List Char} (delimited : Delimited rest)
    (value : Json) : Terminated value rest := by
  cases value <;> first | exact delimited | trivial

theorem takeWhile_number {text rest : List Char}
    (number : ∀ character ∈ text, isNumberCharacter character = true)
    (delimited : Delimited rest) :
    (text ++ rest).takeWhile isNumberCharacter = text ∧
      (text ++ rest).dropWhile isNumberCharacter = rest := by
  rw [List.takeWhile_append_of_pos number, List.dropWhile_append_of_pos number]
  cases rest with
  | nil => simp
  | cons head tail =>
      have other := delimited head (by simp)
      simp [other]

theorem toDigits_head_ne_zero {value : Nat} (positive : 0 < value) :
    (Nat.toDigits 10 value).head? ≠ some '0' := by
  induction value using Nat.strong_induction_on with
  | _ value induction =>
      by_cases small : value < 10
      · rw [Nat.toDigits_of_lt_base small]
        interval_cases value <;> decide
      · rw [Nat.toDigits_of_base_le (by decide) (by omega),
          List.head?_append_of_ne_nil _ Nat.toDigits_ne_nil]
        exact induction (value / 10) (by omega) (by omega)

theorem readDigits_toDigits (value : Nat) :
    readDigits (Nat.toDigits 10 value) = some value := by
  have digits : (Nat.toDigits 10 value).all Char.isDigit = true := by
    rw [List.all_eq_true]
    intro character member
    exact Nat.isDigit_of_mem_toDigits (by decide) (by decide) member
  have canonical : (Nat.toDigits 10 value).head? = some '0' →
      Nat.toDigits 10 value = ['0'] := by
    intro leading
    by_cases zero : value = 0
    · subst zero; rfl
    · exact absurd leading (toDigits_head_ne_zero (by omega))
  have denoted := Nat.ofDigitChars_ten_toDigits (n := value)
  cases text : Nat.toDigits 10 value with
  | nil => exact absurd text Nat.toDigits_ne_nil
  | cons first rest =>
      rw [text] at digits canonical denoted
      have shape : first ≠ '0' ∨ rest = [] := by
        by_cases leading : first = '0'
        · right
          subst leading
          simpa using canonical rfl
        · exact .inl leading
      simp only [readDigits]
      rw [if_pos ⟨digits, shape⟩, denoted]

theorem isNumberCharacter_of_isDigit {character : Char}
    (digit : character.isDigit = true) : isNumberCharacter character = true := by
  simp [isNumberCharacter, digit]

theorem toDigits_head_isDigit (value : Nat) : ∃ first rest,
    Nat.toDigits 10 value = first :: rest ∧ first.isDigit = true := by
  cases text : Nat.toDigits 10 value with
  | nil => exact absurd text Nat.toDigits_ne_nil
  | cons first rest =>
      exact ⟨first, rest, rfl,
        Nat.isDigit_of_mem_toDigits (by decide) (by decide) (text ▸ List.mem_cons_self)⟩

theorem readInteger_writeInteger (value : Int) :
    readInteger (writeInteger value) = some value := by
  cases value with
  | ofNat value =>
      rcases toDigits_head_isDigit value with ⟨first, rest, text, digit⟩
      have notSign : first ≠ '-' := by
        rintro rfl
        simp at digit
      have read := readDigits_toDigits value
      rw [text] at read
      simp [writeInteger, text, readInteger, notSign, read]
  | negSucc value =>
      simp [writeInteger, readInteger, readDigits_toDigits, Int.negSucc_eq]

theorem writeInteger_number (value : Int) :
    ∀ character ∈ writeInteger value, isNumberCharacter character = true := by
  intro character member
  cases value with
  | ofNat value =>
      exact isNumberCharacter_of_isDigit
        (Nat.isDigit_of_mem_toDigits (by decide) (by decide) member)
  | negSucc value =>
      rcases List.mem_cons.mp member with rfl | member
      · decide
      · exact isNumberCharacter_of_isDigit
          (Nat.isDigit_of_mem_toDigits (by decide) (by decide) member)

/-- The spelling of a non-integer number is never read as an integer. -/
theorem readInteger_float (value : FloatLiteral) :
    readInteger value.text = none := by
  have valid := value.valid
  simp only [isFloatText, Bool.and_eq_true, List.any_eq_true] at valid
  rcases valid.2 with ⟨mark, member, isMark⟩
  have notDigit : mark.isDigit = false := by
    rcases Bool.or_eq_true _ _ ▸ isMark with equal | equal <;>
      (rw [beq_iff_eq] at equal; subst mark; decide)
  have notSign : mark ≠ '-' := by
    rintro rfl
    simp at isMark
  have refused : ∀ digits : List Char, mark ∈ digits → readDigits digits = none := by
    intro digits inside
    cases digits with
    | nil => cases inside
    | cons first rest =>
        simp only [readDigits]
        rw [if_neg]
        rintro ⟨all, _⟩
        rw [List.all_eq_true] at all
        simp [all mark inside] at notDigit
  cases text : value.text with
  | nil => rfl
  | cons first rest =>
      rw [text] at member
      simp only [readInteger]
      split
      · rename_i sign
        have inRest : mark ∈ rest := by
          rcases List.mem_cons.mp member with equal | inside
          · exact absurd (equal.trans sign) notSign
          · exact inside
        rw [refused rest inRest]
        rfl
      · rw [refused (first :: rest) member]
        rfl

theorem readNumber_append {text rest : List Char}
    (number : ∀ character ∈ text, isNumberCharacter character = true)
    (delimited : Delimited rest) :
    readNumber (text ++ rest) = match readInteger text with
      | some value => some (.integer value, rest)
      | none =>
          if valid : isFloatText text = true then some (.float ⟨text, valid⟩, rest)
          else none := by
  have split := takeWhile_number number delimited
  unfold readNumber
  simp only [split.1, split.2]

theorem readWord_of_ne {head other : Char} (word input : List Char)
    (different : head ≠ other) : readWord (head :: word) (other :: input) = none := by
  simp [readWord, different]

/-- No literal word is a prefix of a number: the words start with a letter,
except for one that has a letter after its sign. -/
theorem readScalar_number {first : Char} {text : List Char} (rest : List Char)
    (number : ∀ character ∈ first :: text, isNumberCharacter character = true)
    (start : first.isDigit = true ∨ first = '-' ∧ text ≠ []) :
    readScalar (first :: text ++ rest) = readNumber (first :: text ++ rest) := by
  have letters : 'n' ≠ first ∧ 't' ≠ first ∧ 'f' ≠ first ∧ 'N' ≠ first ∧
      'I' ≠ first := by
    refine ⟨?_, ?_, ?_, ?_, ?_⟩ <;> (rintro rfl; simp at start)
  have signed : readWord ['-', 'I', 'n', 'f', 'i', 'n', 'i', 't', 'y']
      (first :: (text ++ rest)) = none := by
    rcases start with digit | ⟨rfl, nonempty⟩
    · apply readWord_of_ne
      rintro rfl
      simp at digit
    · cases text with
      | nil => exact absurd rfl nonempty
      | cons next text =>
          have numeric := number next (by simp)
          have different : 'I' ≠ next := by
            rintro rfl
            simp [isNumberCharacter] at numeric
          simp [readWord, different]
  unfold readScalar
  rw [List.cons_append, readWord_of_ne _ _ letters.1, readWord_of_ne _ _ letters.2.1,
    readWord_of_ne _ _ letters.2.2.1, readWord_of_ne _ _ letters.2.2.2.1,
    readWord_of_ne _ _ letters.2.2.2.2, signed]

/-! ## Values read back -/

theorem skipWhitespace_cons {character : Char} (rest : List Char)
    (visible : isWhitespace character = false) :
    skipWhitespace (character :: rest) = character :: rest := by
  simp [skipWhitespace, visible]

/-- How a written value may start: with a visible character that closes no
bracket. -/
def Opens (text : List Char) : Prop :=
  ∃ first rest, text = first :: rest ∧ isWhitespace first = false ∧
    first ≠ ']' ∧ first ≠ '}'

theorem Opens.of_digit {first : Char} (rest : List Char)
    (digit : first.isDigit = true) : Opens (first :: rest) := by
  refine ⟨first, rest, rfl, ?_, ?_, ?_⟩
  · simp only [isWhitespace, Bool.or_eq_false_iff, beq_eq_false_iff_ne]
    refine ⟨⟨⟨?_, ?_⟩, ?_⟩, ?_⟩ <;> (rintro rfl; simp at digit)
  · rintro rfl
    simp at digit
  · rintro rfl
    simp at digit

theorem float_start (value : FloatLiteral) : ∃ first text,
    value.text = first :: text ∧
      (first.isDigit = true ∨ first = '-' ∧ text ≠ []) ∧
      ∀ character ∈ first :: text, isNumberCharacter character = true := by
  have valid := value.valid
  simp only [isFloatText, Bool.and_eq_true, List.all_eq_true,
    List.any_eq_true] at valid
  rcases valid with ⟨⟨number, start⟩, mark, member, isMark⟩
  cases text : value.text with
  | nil => simp [text] at member
  | cons first rest =>
      rw [text] at number member start
      refine ⟨first, rest, rfl, ?_, number⟩
      rcases Bool.or_eq_true _ _ ▸ start with digit | sign
      · exact .inl (by simpa using digit)
      · right
        have equal : first = '-' := by simpa using sign
        refine ⟨equal, ?_⟩
        rintro rfl
        rw [List.mem_singleton] at member
        subst mark equal
        simp at isMark

theorem opens_writeInteger (value : Int) : Opens (writeInteger value) := by
  cases value with
  | ofNat value =>
      rcases toDigits_head_isDigit value with ⟨first, rest, text, digit⟩
      simp only [writeInteger, text]
      exact .of_digit rest digit
  | negSucc value => exact ⟨'-', _, rfl, by decide, by decide, by decide⟩

theorem opens_write (value : Json) : Opens (write value) := by
  cases value with
  | null => exact ⟨_, _, rfl, by decide, by decide, by decide⟩
  | bool value => cases value <;> exact ⟨_, _, rfl, by decide, by decide, by decide⟩
  | integer value => exact opens_writeInteger value
  | float value =>
      rcases float_start value with ⟨first, rest, text, digit | ⟨rfl, _⟩, _⟩
      · simp only [write, text]
        exact .of_digit rest digit
      · simp only [write, text]
        exact ⟨_, _, rfl, by decide, by decide, by decide⟩
  | notANumber => exact ⟨_, _, rfl, by decide, by decide, by decide⟩
  | infinity negative =>
      cases negative <;> exact ⟨_, _, rfl, by decide, by decide, by decide⟩
  | string value => exact ⟨_, _, rfl, by decide, by decide, by decide⟩
  | array items => exact ⟨_, _, rfl, by decide, by decide, by decide⟩
  | object members => exact ⟨_, _, rfl, by decide, by decide, by decide⟩

/-- A value whose text opens no string and no bracket is read as a scalar. -/
theorem readValue_scalar {fuel : Nat} {first : Char} {rest : List Char}
    (visible : isWhitespace first = false)
    (scalar : first ≠ '"' ∧ first ≠ '[' ∧ first ≠ '{') :
    readValue (fuel + 1) (first :: rest) = readScalar (first :: rest) := by
  simp [readValue, skipWhitespace_cons rest visible, scalar]

theorem readValue_number {fuel : Nat} {first : Char} {text rest : List Char}
    (number : ∀ character ∈ first :: text, isNumberCharacter character = true)
    (start : first.isDigit = true ∨ first = '-' ∧ text ≠ []) :
    readValue (fuel + 1) (first :: text ++ rest) =
      readNumber (first :: text ++ rest) := by
  have visible : isWhitespace first = false := by
    simp only [isWhitespace, Bool.or_eq_false_iff, beq_eq_false_iff_ne]
    refine ⟨⟨⟨?_, ?_⟩, ?_⟩, ?_⟩ <;> (rintro rfl; simp at start)
  have scalar : first ≠ '"' ∧ first ≠ '[' ∧ first ≠ '{' := by
    refine ⟨?_, ?_, ?_⟩ <;> (rintro rfl; simp at start)
  rw [List.cons_append, readValue_scalar visible scalar, ← List.cons_append,
    readScalar_number rest number start]

theorem readValue_writeInteger (fuel : Nat) (value : Int) {rest : List Char}
    (delimited : Delimited rest) :
    readValue (fuel + 1) (writeInteger value ++ rest) =
      some (.integer value, rest) := by
  have number := writeInteger_number value
  have read := readNumber_append number delimited
  simp only [readInteger_writeInteger] at read
  cases value with
  | ofNat value =>
      rcases toDigits_head_isDigit value with ⟨first, text, equal, digit⟩
      simp only [writeInteger, equal] at number read ⊢
      rw [readValue_number number (.inl digit), read]
  | negSucc value =>
      rw [← read]
      exact readValue_number number (.inr ⟨rfl, Nat.toDigits_ne_nil⟩)

theorem readValue_float (fuel : Nat) (value : FloatLiteral) {rest : List Char}
    (delimited : Delimited rest) :
    readValue (fuel + 1) (value.text ++ rest) = some (.float value, rest) := by
  rcases float_start value with ⟨first, text, equal, start, number⟩
  have read := readNumber_append (equal ▸ number) delimited
  rw [readInteger_float] at read
  simp only [value.valid, dite_true] at read
  rw [← read, equal]
  exact readValue_number number start

theorem opens_writeItems (head : Json) (tail : List Json) :
    Opens (writeItems (head :: tail)) := by
  rcases opens_write head with ⟨first, rest, text, opens⟩
  cases tail with
  | nil => exact ⟨first, rest, text, opens⟩
  | cons next tail =>
      exact ⟨first, rest ++ ',' :: writeItems (next :: tail),
        by rw [writeItems, text, List.cons_append], opens⟩

theorem opens_writeMembers (head : String × Json) (tail : List (String × Json)) :
    Opens (writeMembers (head :: tail)) := by
  cases tail with
  | nil => exact ⟨'"', _, rfl, by decide, by decide, by decide⟩
  | cons next tail => exact ⟨'"', _, rfl, by decide, by decide, by decide⟩

/-- Reading a key and its colon leaves the value to be read. -/
theorem readMembers_key (fuel : Nat) (key : String) (text : List Char) :
    readMembers (fuel + 1) (writeString key ++ ':' :: text) =
      (readValue fuel text).bind fun result =>
        match skipWhitespace result.2 with
        | [] => none
        | next :: after =>
            if next = ',' then do
              let (members, rest) ← readMembers fuel after
              some ((key, result.1) :: members, rest)
            else if next = '}' then some ([(key, result.1)], after)
            else none := by
  have quote : isWhitespace '"' = false := by decide
  have colon : isWhitespace ':' = false := by decide
  simp [writeString, readMembers, skipWhitespace_cons _ quote,
    skipWhitespace_cons _ colon, readString_writeString]

mutual
/-- Reading the text of a value returns the value and what follows it, for
any fuel at least the length of the text. -/
theorem readValue_write : ∀ (value : Json) (fuel : Nat) (rest : List Char),
    (write value).length ≤ fuel → Terminated value rest →
    readValue fuel (write value ++ rest) = some (value, rest)
  | value, 0, rest, enough, _ => by
      rcases opens_write value with ⟨first, tail, text, _⟩
      simp [text] at enough
  | .null, fuel + 1, rest, _, _ =>
      readValue_scalar (by decide) (by decide)
  | .bool true, fuel + 1, rest, _, _ =>
      readValue_scalar (by decide) (by decide)
  | .bool false, fuel + 1, rest, _, _ =>
      readValue_scalar (by decide) (by decide)
  | .integer value, fuel + 1, rest, _, delimited =>
      readValue_writeInteger fuel value delimited
  | .float value, fuel + 1, rest, _, delimited =>
      readValue_float fuel value delimited
  | .notANumber, fuel + 1, rest, _, _ =>
      readValue_scalar (by decide) (by decide)
  | .infinity false, fuel + 1, rest, _, _ =>
      readValue_scalar (by decide) (by decide)
  | .infinity true, fuel + 1, rest, _, _ =>
      readValue_scalar (by decide) (by decide)
  | .string value, fuel + 1, rest, _, _ => by
      have quote : isWhitespace '"' = false := by decide
      simp [write, writeString, readValue, skipWhitespace_cons _ quote,
        readString_writeString]
  | .array [], fuel + 1, rest, _, _ => by
      have bracket : isWhitespace '[' = false := by decide
      have close : isWhitespace ']' = false := by decide
      simp [write, writeItems, readValue, skipWhitespace_cons _ bracket,
        skipWhitespace_cons _ close]
  | .array (head :: tail), fuel + 1, rest, enough, _ => by
      have bracket : isWhitespace '[' = false := by decide
      have inner := readItems_writeItems head tail fuel rest (by
        simp only [write, List.length_cons, List.length_append] at enough
        simp at enough
        omega)
      rcases opens_writeItems head tail with
        ⟨first, body, text, visible, notClose, _⟩
      rw [text] at inner
      simp only [write, text]
      simp only [List.cons_append, List.append_assoc, List.nil_append] at inner ⊢
      simp [readValue, skipWhitespace_cons _ bracket,
        skipWhitespace_cons _ visible, notClose, inner]
  | .object [], fuel + 1, rest, _, _ => by
      have brace : isWhitespace '{' = false := by decide
      have close : isWhitespace '}' = false := by decide
      simp [write, writeMembers, readValue, skipWhitespace_cons _ brace,
        skipWhitespace_cons _ close]
  | .object (head :: tail), fuel + 1, rest, enough, _ => by
      have brace : isWhitespace '{' = false := by decide
      have inner := readMembers_writeMembers head tail fuel rest (by
        simp only [write, List.length_cons, List.length_append] at enough
        simp at enough
        omega)
      rcases opens_writeMembers head tail with
        ⟨first, body, text, visible, _, notClose⟩
      rw [text] at inner
      simp only [write, text]
      simp only [List.cons_append, List.append_assoc, List.nil_append] at inner ⊢
      simp [readValue, skipWhitespace_cons _ brace,
        skipWhitespace_cons _ visible, notClose, inner]

theorem readItems_writeItems : ∀ (head : Json) (tail : List Json) (fuel : Nat)
    (rest : List Char), (writeItems (head :: tail)).length + 1 ≤ fuel →
    readItems fuel (writeItems (head :: tail) ++ ']' :: rest) =
      some (head :: tail, rest)
  | _, _, 0, _, enough => by simp at enough
  | head, [], fuel + 1, rest, enough => by
      have close : isWhitespace ']' = false := by decide
      have read := readValue_write head fuel (']' :: rest)
        (by simpa [writeItems] using enough)
        ((Delimited.cons rest (by decide)).terminated head)
      simp [writeItems, readItems, read, skipWhitespace_cons _ close]
  | head, next :: tail, fuel + 1, rest, enough => by
      have comma : isWhitespace ',' = false := by decide
      simp only [writeItems, List.length_append, List.length_cons] at enough
      have read := readValue_write head fuel
        (',' :: (writeItems (next :: tail) ++ ']' :: rest)) (by omega)
        ((Delimited.cons _ (by decide)).terminated head)
      have following := readItems_writeItems next tail fuel rest (by omega)
      simp only [writeItems, List.append_assoc, List.cons_append]
      simp [readItems, read, skipWhitespace_cons _ comma, following]

theorem readMembers_writeMembers : ∀ (head : String × Json)
    (tail : List (String × Json)) (fuel : Nat) (rest : List Char),
    (writeMembers (head :: tail)).length + 1 ≤ fuel →
    readMembers fuel (writeMembers (head :: tail) ++ '}' :: rest) =
      some (head :: tail, rest)
  | _, _, 0, _, enough => by simp at enough
  | (key, value), [], fuel + 1, rest, enough => by
      have close : isWhitespace '}' = false := by decide
      simp only [writeMembers, List.length_append, List.length_cons] at enough
      have read := readValue_write value fuel ('}' :: rest) (by omega)
        ((Delimited.cons rest (by decide)).terminated value)
      simp only [writeMembers, List.append_assoc, List.cons_append]
      simp [readMembers_key, read, skipWhitespace_cons _ close]
  | (key, value), next :: tail, fuel + 1, rest, enough => by
      have comma : isWhitespace ',' = false := by decide
      simp only [writeMembers, List.length_append, List.length_cons] at enough
      have read := readValue_write value fuel
        (',' :: (writeMembers (next :: tail) ++ '}' :: rest)) (by omega)
        ((Delimited.cons _ (by decide)).terminated value)
      have following := readMembers_writeMembers next tail fuel rest (by omega)
      simp only [writeMembers, List.append_assoc, List.cons_append]
      simp [readMembers_key, read, skipWhitespace_cons _ comma, following]
end

/-! ## Documents -/

theorem decode_write (value : Json) :
    decode (write value) = some value := by
  have read := readValue_write value ((write value).length + 1) [] (by omega)
    (Delimited.nil.terminated value)
  rw [List.append_nil] at read
  unfold decode
  rw [read]
  rfl

theorem write_injective : Function.Injective write := by
  intro left right equal
  have decoded := decode_write left
  rw [equal, decode_write] at decoded
  exact (Option.some.inj decoded).symm

/-- The text of an object ends where it closes, whatever follows it. -/
theorem write_object_append_injective {left right : List (String × Json)}
    {leftRest rightRest : List Char}
    (equal : write (.object left) ++ leftRest = write (.object right) ++ rightRest) :
    left = right ∧ leftRest = rightRest := by
  let fuel := (write (.object left)).length + (write (.object right)).length
  have leftRead := readValue_write (.object left) fuel leftRest (by omega) trivial
  have rightRead := readValue_write (.object right) fuel rightRest (by omega) trivial
  rw [equal, rightRead] at leftRead
  cases leftRead
  exact ⟨rfl, rfl⟩

/-- Reading a canonical text returns the value with its members in key order. -/
theorem decode_encode (value : Json) :
    decode (encode value) = some value.sortKeys :=
  decode_write value.sortKeys

/-- The canonical text identifies a value up to the order of object members. -/
theorem encode_eq_iff_same {left right : Json} (leftUnique : left.UniqueKeys)
    (rightUnique : right.UniqueKeys) :
    encode left = encode right ↔ left.Same right := by
  rw [Json.same_iff_sortKeys_eq left right leftUnique rightUnique]
  constructor
  · intro equal
    exact write_injective equal
  · intro equal
    rw [encode, encode, equal]

/-! ## Lines -/

theorem newline_notMem_of_number {text : List Char}
    (number : ∀ character ∈ text, isNumberCharacter character = true) : '\n' ∉ text := by
  intro member
  exact absurd (number _ member) (by decide)

theorem newline_notMem_escape (character : Char) : '\n' ∉ escape character := by
  unfold escape
  split_ifs with quote backslash newline carriage tab backspace feed control
  rotate_left 7
  · have high : character.toNat / 16 < 2 := by omega
    have low : character.toNat % 16 < 16 := Nat.mod_lt _ (by decide)
    generalize character.toNat / 16 = upper at high
    generalize character.toNat % 16 = lower at low
    interval_cases upper <;> interval_cases lower <;> decide
  · simpa using Ne.symm newline
  all_goals decide

theorem newline_notMem_writeString (text : String) : '\n' ∉ writeString text := by
  intro member
  simp only [writeString, List.mem_cons, List.mem_append, List.mem_flatMap,
    List.not_mem_nil, or_false] at member
  rcases member with quote | ⟨character, _, escaped⟩ | quote
  · exact absurd quote (by decide)
  · exact newline_notMem_escape character escaped
  · exact absurd quote (by decide)

mutual
/-- The text of a tree is one line. -/
theorem newline_notMem_write : ∀ value : Json, '\n' ∉ write value
  | .null | .notANumber | .bool true | .bool false => by simp [write]
  | .infinity true | .infinity false => by simp [write]
  | .integer value => newline_notMem_of_number (writeInteger_number value)
  | .float value => by
      apply newline_notMem_of_number
      have valid := value.valid
      simp only [isFloatText, Bool.and_eq_true] at valid
      exact List.all_eq_true.mp valid.1.1
  | .string value => newline_notMem_writeString value
  | .array items => by
      have inner := newline_notMem_writeItems items
      simp [write, inner]
  | .object members => by
      have inner := newline_notMem_writeMembers members
      simp [write, inner]

theorem newline_notMem_writeItems : ∀ items : List Json, '\n' ∉ writeItems items
  | [] => by simp [writeItems]
  | [item] => newline_notMem_write item
  | item :: next :: rest => by
      have head := newline_notMem_write item
      have tail := newline_notMem_writeItems (next :: rest)
      simp [writeItems, head, tail]

theorem newline_notMem_writeMembers : ∀ members : List (String × Json),
    '\n' ∉ writeMembers members
  | [] => by simp [writeMembers]
  | [(key, value)] => by
      have text := newline_notMem_writeString key
      have head := newline_notMem_write value
      simp [writeMembers, text, head]
  | (key, value) :: next :: rest => by
      have text := newline_notMem_writeString key
      have head := newline_notMem_write value
      have tail := newline_notMem_writeMembers (next :: rest)
      simp [writeMembers, text, head, tail]
end

/-! ## Bytes -/

theorem toByteArray_utf8 (text : List Char) :
    (utf8 text).toByteArray = (String.ofList text).toByteArray := by
  rw [String.toByteArray_ofList]
  rfl

theorem utf8_injective : Function.Injective utf8 := by
  intro left right equal
  have strings : String.ofList left = String.ofList right := by
    rw [← String.toByteArray_inj, ← toByteArray_utf8, ← toByteArray_utf8, equal]
  exact String.ofList_injective strings

theorem decodeBytes_utf8 (text : List Char) :
    decodeBytes (utf8 text) = decode text := by
  have valid := (String.ofList text).isValidUTF8
  have read : String.fromUTF8? (utf8 text).toByteArray = some (String.ofList text) := by
    rw [toByteArray_utf8, String.fromUTF8?, dif_pos valid]
    rfl
  simp [decodeBytes, read]

end JsonText

end Foundation
