import SupportGuard.Foundation.JsonText

/-! # Text over a byte stream

A reader of a text stream gets bytes in chunks whose borders mean nothing. It decodes
them with a decoder that remembers an unfinished character, and cuts the text into
frames at blank lines, keeping the unfinished frame. Neither depends on the chunks. -/

namespace Foundation

/-! ## Decoding UTF-8 -/

/-- The UTF-8 decoder of the Encoding Standard: the character under way, with the bytes
it still needs and the range its next byte must lie in, and whether a byte order mark
can no longer come. -/
structure Utf8Decoder where
  codePoint : Nat := 0
  bytesNeeded : Nat := 0
  lowerBoundary : Nat := 0x80
  upperBoundary : Nat := 0xBF
  bomSeen : Bool := false
deriving DecidableEq, Repr

namespace Utf8Decoder

def replacement : Char := '\uFFFD'

/-- A byte order mark that opens the stream is not part of the text. -/
def release (decoder : Utf8Decoder) (character : Char) : Utf8Decoder × List Char :=
  ({ bomSeen := true },
    if decoder.bomSeen = false ∧ character = '\uFEFF' then [] else [character])

def lead (decoder : Utf8Decoder) (byte : Nat) : Utf8Decoder × List Char :=
  if byte ≤ 0x7F then decoder.release (Char.ofNat byte)
  else if 0xC2 ≤ byte ∧ byte ≤ 0xDF then
    ({ decoder with codePoint := byte % 0x20, bytesNeeded := 1 }, [])
  else if 0xE0 ≤ byte ∧ byte ≤ 0xEF then
    ({ decoder with
        codePoint := byte % 0x10
        bytesNeeded := 2
        lowerBoundary := if byte = 0xE0 then 0xA0 else 0x80
        upperBoundary := if byte = 0xED then 0x9F else 0xBF }, [])
  else if 0xF0 ≤ byte ∧ byte ≤ 0xF4 then
    ({ decoder with
        codePoint := byte % 0x08
        bytesNeeded := 3
        lowerBoundary := if byte = 0xF0 then 0x90 else 0x80
        upperBoundary := if byte = 0xF4 then 0x8F else 0xBF }, [])
  else decoder.release replacement

/-- A byte outside the range ends the character under way and is read again as the first
byte of the next one. -/
def step (decoder : Utf8Decoder) (byte : Nat) : Utf8Decoder × List Char :=
  if decoder.bytesNeeded = 0 then decoder.lead byte
  else if decoder.lowerBoundary ≤ byte ∧ byte ≤ decoder.upperBoundary then
    let codePoint := decoder.codePoint * 0x40 + byte % 0x40
    if decoder.bytesNeeded = 1 then decoder.release (Char.ofNat codePoint)
    else
      ({ codePoint
         bytesNeeded := decoder.bytesNeeded - 1
         bomSeen := decoder.bomSeen }, [])
  else
    let (broken, marks) := decoder.release replacement
    let (next, characters) := broken.lead byte
    (next, marks ++ characters)

def decode : Utf8Decoder → List UInt8 → Utf8Decoder × List Char
  | decoder, [] => (decoder, [])
  | decoder, byte :: rest =>
      let (next, characters) := decoder.step byte.toNat
      let (last, others) := next.decode rest
      (last, characters ++ others)

theorem decode_append (decoder : Utf8Decoder) (early late : List UInt8) :
    decoder.decode (early ++ late) =
      (((decoder.decode early).1.decode late).1,
        (decoder.decode early).2 ++ ((decoder.decode early).1.decode late).2) := by
  induction early generalizing decoder with
  | nil => rfl
  | cons byte rest induction =>
      simp only [List.cons_append, decode, induction, List.append_assoc]

theorem decode_singleton (decoder : Utf8Decoder) {byte : Nat} (small : byte < 256) :
    decoder.decode [UInt8.ofNat byte] = decoder.step byte := by
  simp [decode, Nat.mod_eq_of_lt small]

theorem decode_cons {decoder next : Utf8Decoder} {byte : Nat} (rest : List UInt8)
    (small : byte < 256) (silent : decoder.step byte = (next, [])) :
    decoder.decode (UInt8.ofNat byte :: rest) = next.decode rest := by
  simp [decode, Nat.mod_eq_of_lt small, silent]

/-- A byte in range that is not the last of its character. -/
theorem step_continues {decoder : Utf8Decoder} {payload : Nat}
    (several : 1 < decoder.bytesNeeded) (small : payload < 0x40)
    (low : decoder.lowerBoundary ≤ payload + 0x80)
    (high : payload + 0x80 ≤ decoder.upperBoundary) :
    decoder.step (payload + 0x80) =
      ({ codePoint := decoder.codePoint * 0x40 + payload
         bytesNeeded := decoder.bytesNeeded - 1
         bomSeen := decoder.bomSeen }, []) := by
  have bits : (payload + 0x80) % 0x40 = payload := by omega
  rw [step, if_neg (by omega), if_pos ⟨low, high⟩, if_neg (by omega), bits]

/-- A byte in range that completes its character. -/
theorem step_completes {codePoint payload : Nat} (bomSeen : Bool) (small : payload < 0x40) :
    step { codePoint, bytesNeeded := 1, bomSeen } (payload + 0x80) =
      release { bomSeen } (Char.ofNat (codePoint * 0x40 + payload)) := by
  have bits : (payload + 0x80) % 0x40 = payload := by omega
  have high : payload + 0x80 ≤ 0xBF := by omega
  rw [step, if_neg Nat.one_ne_zero, if_pos ⟨Nat.le_add_left _ _, high⟩,
    if_pos rfl, bits]
  rfl

theorem decode_two {first second : Nat} (bomSeen : Bool) (firstLow : 2 ≤ first)
    (firstHigh : first < 0x20) (secondHigh : second < 0x40) :
    decode { bomSeen } [UInt8.ofNat (first + 0xC0), UInt8.ofNat (second + 0x80)] =
      release { bomSeen } (Char.ofNat (first * 0x40 + second)) := by
  have bits : (first + 0xC0) % 0x20 = first := by omega
  have opened : step { bomSeen } (first + 0xC0) =
      ({ codePoint := first, bytesNeeded := 1, bomSeen }, []) := by
    rw [step, if_pos rfl, lead, if_neg (by omega), if_pos (by omega), bits]
  rw [decode_cons _ (by omega) opened, decode_singleton _ (by omega)]
  exact step_completes bomSeen secondHigh

/-- The first two bytes of three leave out the surrogates and what two bytes hold. -/
theorem decode_three {first second third : Nat} (bomSeen : Bool) (firstHigh : first < 0x10)
    (secondHigh : second < 0x40) (thirdHigh : third < 0x40)
    (long : first = 0 → 0x20 ≤ second) (scalar : first = 0xD → second < 0x20) :
    decode { bomSeen } [UInt8.ofNat (first + 0xE0), UInt8.ofNat (second + 0x80),
        UInt8.ofNat (third + 0x80)] =
      release { bomSeen } (Char.ofNat ((first * 0x40 + second) * 0x40 + third)) := by
  have bits : (first + 0xE0) % 0x10 = first := by omega
  have opened : step { bomSeen } (first + 0xE0) =
      ({ codePoint := first, bytesNeeded := 2,
         lowerBoundary := if first + 0xE0 = 0xE0 then 0xA0 else 0x80
         upperBoundary := if first + 0xE0 = 0xED then 0x9F else 0xBF
         bomSeen }, []) := by
    rw [step, if_pos rfl, lead, if_neg (by omega), if_neg (by omega), if_pos (by omega), bits]
  rw [decode_cons _ (by omega) opened]
  rw [decode_cons _ (by omega) (step_continues Nat.one_lt_two secondHigh
    (by dsimp only; split <;> omega) (by dsimp only; split <;> omega))]
  rw [decode_singleton _ (by omega)]
  exact step_completes bomSeen thirdHigh

/-- The first two bytes of four leave out what three bytes hold and what lies past the
last plane. -/
theorem decode_four {first second third fourth : Nat} (bomSeen : Bool) (firstHigh : first < 5)
    (secondHigh : second < 0x40) (thirdHigh : third < 0x40) (fourthHigh : fourth < 0x40)
    (long : first = 0 → 0x10 ≤ second) (planes : first = 4 → second < 0x10) :
    decode { bomSeen } [UInt8.ofNat (first + 0xF0), UInt8.ofNat (second + 0x80),
        UInt8.ofNat (third + 0x80), UInt8.ofNat (fourth + 0x80)] =
      release { bomSeen }
        (Char.ofNat (((first * 0x40 + second) * 0x40 + third) * 0x40 + fourth)) := by
  have bits : (first + 0xF0) % 0x08 = first := by omega
  have opened : step { bomSeen } (first + 0xF0) =
      ({ codePoint := first, bytesNeeded := 3,
         lowerBoundary := if first + 0xF0 = 0xF0 then 0x90 else 0x80
         upperBoundary := if first + 0xF0 = 0xF4 then 0x8F else 0xBF
         bomSeen }, []) := by
    rw [step, if_pos rfl, lead, if_neg (by omega), if_neg (by omega), if_neg (by omega),
      if_pos (by omega), bits]
  rw [decode_cons _ (by omega) opened]
  rw [decode_cons _ (by omega) (step_continues (by dsimp only; omega) secondHigh
    (by dsimp only; split <;> omega) (by dsimp only; split <;> omega))]
  rw [decode_cons _ (by omega) (step_continues Nat.one_lt_two thirdHigh
    (Nat.le_add_left _ _) (by dsimp only; omega))]
  rw [decode_singleton _ (by omega)]
  exact step_completes bomSeen fourthHigh

/-- Between two characters, the bytes of a character release that character. -/
theorem decode_utf8EncodeChar (bomSeen : Bool) (character : Char) :
    decode { bomSeen } (String.utf8EncodeChar character) =
      release { bomSeen } character := by
  obtain ⟨value, equal⟩ : ∃ value, character.val.toNat = value := ⟨_, rfl⟩
  have scalar : Char.ofNat value = character := by
    rw [← equal]
    exact Char.ofNat_toNat character
  have bounds : value < 0xD800 ∨ 0xDFFF < value ∧ value < 0x110000 := by
    rw [← equal]
    exact character.valid
  rw [String.utf8EncodeChar, equal]
  split_ifs with oneByte twoBytes threeBytes
  · rw [decode_singleton _ (by omega), step, if_pos rfl, lead, if_pos oneByte, scalar]
  · have bits : value / 64 % 0x20 * 0x40 + value % 0x40 = value := by omega
    rw [decode_two bomSeen (by omega) (by omega) (by omega), bits, scalar]
  · have bits : (value / 4096 % 0x10 * 0x40 + value / 64 % 0x40) * 0x40 + value % 0x40 =
        value := by
      omega
    rw [decode_three bomSeen (by omega) (by omega) (by omega) (by omega) (by omega), bits,
      scalar]
  · have bits : ((value / 262144 % 0x08 * 0x40 + value / 4096 % 0x40) * 0x40 +
        value / 64 % 0x40) * 0x40 + value % 0x40 = value := by
      omega
    rw [decode_four bomSeen (by omega) (by omega) (by omega) (by omega) (by omega) (by omega),
      bits, scalar]

/-- Past the place of a byte order mark, the bytes of a text decode to the text. -/
theorem decode_utf8 (text : List Char) :
    decode { bomSeen := true } (JsonText.utf8 text) = ({ bomSeen := true }, text) := by
  induction text with
  | nil => rfl
  | cons character rest induction =>
      rw [JsonText.utf8, List.flatMap_cons, decode_append, decode_utf8EncodeChar]
      rw [JsonText.utf8] at induction
      simp [release, induction]

/-- From the start, unless the text opens with a byte order mark. -/
theorem decode_utf8_of_head {first : Char} (rest : List Char) (text : first ≠ '\uFEFF') :
    (decode {} (JsonText.utf8 (first :: rest))).2 = first :: rest := by
  have late := decode_utf8 rest
  rw [JsonText.utf8] at late
  rw [JsonText.utf8, List.flatMap_cons, decode_append, decode_utf8EncodeChar]
  simp [release, late, text]

example : (({} : Utf8Decoder).decode [0xE2, 0x82]).2 = [] ∧
    (({} : Utf8Decoder).decode [0xE2, 0x82, 0xAC]).2 = ['€'] ∧
    (({} : Utf8Decoder).decode [0xE2, 0x41]).2 = [replacement, 'A'] := by
  decide

end Utf8Decoder

/-! ## Frames -/

/-- Cut a text at every blank line, from the left: the frames that a blank line ends, and
the text after the last of them. -/
def cutFrames : List Char → List (List Char) × List Char
  | [] => ([], [])
  | '\n' :: '\n' :: rest =>
      let (frames, last) := cutFrames rest
      ([] :: frames, last)
  | character :: rest =>
      match cutFrames rest with
      | ([], last) => ([], character :: last)
      | (frame :: frames, last) => ((character :: frame) :: frames, last)

/-- Put characters that end no frame in front of a cut text. -/
def prepend (characters : List Char) :
    List (List Char) × List Char → List (List Char) × List Char
  | ([], last) => ([], characters ++ last)
  | (frame :: frames, last) => ((characters ++ frame) :: frames, last)

theorem cutFrames_cons {character : Char} {rest : List Char}
    (open_ : character = '\n' → rest.head? ≠ some '\n') :
    cutFrames (character :: rest) = prepend [character] (cutFrames rest) := by
  rw [cutFrames]
  · rcases cutFrames rest with ⟨_ | _, last⟩ <;> rfl
  · intro tail newline tailEqual
    apply open_ newline
    rw [tailEqual]
    rfl

theorem cutFrames_line {line : List Char} (rest : List Char) (single : '\n' ∉ line) :
    cutFrames (line ++ rest) = prepend line (cutFrames rest) := by
  induction line with
  | nil =>
      rw [List.nil_append]
      rcases cutFrames rest with ⟨_ | _, last⟩ <;> rfl
  | cons character line induction =>
      rw [List.mem_cons, not_or] at single
      rw [List.cons_append, cutFrames_cons (fun newline => absurd newline.symm single.1),
        induction single.2]
      rcases cutFrames rest with ⟨_ | _, last⟩ <;> rfl

/-- A text without a complete frame is all rest. -/
theorem cutFrames_of_nil (text : List Char) (none : (cutFrames text).1 = []) :
    cutFrames text = ([], text) := by
  fun_induction cutFrames text with
  | case1 => rfl
  | case2 rest frames last equal induction => simp at none
  | case3 character rest notBlank last equal induction =>
      rw [equal] at induction
      cases induction rfl
      rfl
  | case4 character rest notBlank frame frames last equal induction => simp at none

/-- Cutting goes on where it stopped: what follows a text is cut together with its rest. -/
theorem cutFrames_append (text more : List Char) :
    cutFrames (text ++ more) =
      ((cutFrames text).1 ++ (cutFrames ((cutFrames text).2 ++ more)).1,
        (cutFrames ((cutFrames text).2 ++ more)).2) := by
  fun_induction cutFrames text with
  | case1 => rfl
  | case2 rest frames last equal induction =>
      rw [equal] at induction
      simp only [List.cons_append, cutFrames, induction]
  | case3 character rest notBlank last equal induction =>
      -- no frame yet, so the rest is the whole text
      have whole := cutFrames_of_nil rest (by rw [equal])
      rw [equal] at whole
      cases whole
      rfl
  | case4 character rest notBlank frame frames last equal induction =>
      rw [equal] at induction
      have inside : character = '\n' → (rest ++ more).head? ≠ some '\n' := by
        intro newline
        cases rest with
        | nil => simp [cutFrames] at equal
        | cons next tail =>
            intro blank
            exact notBlank tail newline (by simpa using blank)
      rw [List.cons_append, cutFrames_cons inside, induction]
      rfl

theorem cutFrames_prefix {text longer : List Char} (early : text <+: longer) :
    (cutFrames text).1 <+: (cutFrames longer).1 := by
  obtain ⟨more, rfl⟩ := early
  rw [cutFrames_append]
  exact List.prefix_append _ _

/-! ### Bodies of frames -/

/-- The text between two blank lines. -/
def IsFrame (body : List Char) : Prop :=
  cutFrames (body ++ ['\n', '\n']) = ([body], [])

theorem IsFrame.line {line : List Char} (single : '\n' ∉ line) : IsFrame line := by
  rw [IsFrame, cutFrames_line _ single]
  simp [cutFrames, prepend]

theorem IsFrame.cons {line body : List Char} (single : '\n' ∉ line) (frame : IsFrame body)
    (nonempty : body.head? ≠ some '\n') (text : body ≠ []) :
    IsFrame (line ++ '\n' :: body) := by
  have inside : '\n' = '\n' → (body ++ ['\n', '\n']).head? ≠ some '\n' := by
    intro _
    cases body with
    | nil => exact absurd rfl text
    | cons first rest => exact nonempty
  rw [IsFrame] at frame ⊢
  rw [List.append_assoc, cutFrames_line _ single, List.cons_append, cutFrames_cons inside,
    frame]
  simp [prepend]

/-- The frames of texts that a blank line ends each. -/
theorem cutFrames_flatMap {bodies : List (List Char)} (frames : ∀ body ∈ bodies, IsFrame body) :
    cutFrames (bodies.flatMap (· ++ ['\n', '\n'])) = (bodies, []) := by
  induction bodies with
  | nil => rfl
  | cons body rest induction =>
      have head : IsFrame body := frames body List.mem_cons_self
      have tail := induction fun other member => frames other (List.mem_cons_of_mem _ member)
      rw [IsFrame] at head
      rw [List.flatMap_cons, cutFrames_append, head, List.nil_append, tail]
      rfl

/-! ## Reading in chunks -/

/-- What a reader keeps between two chunks. -/
structure FrameReader where
  decoder : Utf8Decoder := {}
  buffer : List Char := []

namespace FrameReader

/-- Take one chunk in and give the frames that are now complete. -/
def read (reader : FrameReader) (chunk : List UInt8) : FrameReader × List (List Char) :=
  let (decoder, text) := reader.decoder.decode chunk
  let (frames, buffer) := cutFrames (reader.buffer ++ text)
  ({ decoder, buffer }, frames)

def readAll : FrameReader → List (List UInt8) → List (List Char)
  | _, [] => []
  | reader, chunk :: rest =>
      let (next, frames) := reader.read chunk
      frames ++ next.readAll rest

theorem readAll_of_buffer (chunks : List (List UInt8)) (reader : FrameReader)
    (waiting : (cutFrames reader.buffer).1 = []) :
    reader.readAll chunks =
      (cutFrames (reader.buffer ++ (reader.decoder.decode chunks.flatten).2)).1 := by
  induction chunks generalizing reader with
  | nil => simpa [readAll, Utf8Decoder.decode] using waiting.symm
  | cons chunk rest induction =>
      -- the rest of a cut text holds no complete frame
      have next : (cutFrames (reader.read chunk).1.buffer).1 = [] := by
        have whole := congrArg Prod.fst
          (cutFrames_append (reader.buffer ++ (reader.decoder.decode chunk).2) [])
        rw [List.append_nil, List.append_nil] at whole
        exact List.append_cancel_left (whole.symm.trans (List.append_nil _).symm)
      have later := induction (reader.read chunk).1 next
      rw [List.flatten_cons, Utf8Decoder.decode_append, ← List.append_assoc, cutFrames_append]
      have step : reader.readAll (chunk :: rest) =
          (reader.read chunk).2 ++ (reader.read chunk).1.readAll rest := rfl
      rw [step, later]
      rfl

end FrameReader

/-- The frames that are complete in some bytes. -/
def framesOf (bytes : List UInt8) : List (List Char) :=
  (cutFrames (({} : Utf8Decoder).decode bytes).2).1

/-- The frames that a new reader gives depend on the bytes alone. -/
theorem FrameReader.readAll_eq (chunks : List (List UInt8)) :
    ({} : FrameReader).readAll chunks = framesOf chunks.flatten :=
  readAll_of_buffer chunks {} rfl

/-- More bytes complete more frames. -/
theorem framesOf_prefix {early late : List UInt8} (arrived : early <+: late) :
    framesOf early <+: framesOf late := by
  obtain ⟨missing, rfl⟩ := arrived
  rw [framesOf, framesOf, Utf8Decoder.decode_append]
  exact cutFrames_prefix (List.prefix_append _ _)

/-- The bytes of a text in which a blank line ends each body complete exactly the
bodies. -/
theorem framesOf_utf8 {bodies : List (List Char)} (frames : ∀ body ∈ bodies, IsFrame body)
    (plain : (bodies.flatMap (· ++ ['\n', '\n'])).head? ≠ some '\uFEFF') :
    framesOf (JsonText.utf8 (bodies.flatMap (· ++ ['\n', '\n']))) = bodies := by
  have decoded : (({} : Utf8Decoder).decode
      (JsonText.utf8 (bodies.flatMap (· ++ ['\n', '\n'])))).2 =
        bodies.flatMap (· ++ ['\n', '\n']) := by
    cases text : bodies.flatMap (· ++ ['\n', '\n']) with
    | nil => rfl
    | cons first rest =>
        apply Utf8Decoder.decode_utf8_of_head
        rw [text] at plain
        simpa using plain
  rw [framesOf, decoded, cutFrames_flatMap frames]

end Foundation
