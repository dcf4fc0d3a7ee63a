import Mathlib.Data.List.DropRight
import SupportGuard.Foundation.JsonText
import SupportGuard.Foundation.PyEquality
import SupportGuard.Foundation.PyValue

/-! # Python's conversions of decoded JSON

`int`, `str` and `dict` applied to a value that was read from a JSON column. -/

namespace Foundation

inductive ConversionError
  | typeError
  | valueError
  | overflowError
deriving DecidableEq

/-! ## Texts -/

/-- The characters that `str.strip` removes. -/
def isTextSpace (character : Char) : Bool :=
  character.toNat ∈ [0x20, 0x85, 0xA0, 0x1680, 0x2028, 0x2029, 0x202F, 0x205F, 0x3000] ||
    (0x09 ≤ character.toNat && character.toNat ≤ 0x0D) ||
    (0x1C ≤ character.toNat && character.toNat ≤ 0x1F) ||
    (0x2000 ≤ character.toNat && character.toNat ≤ 0x200A)

def stripSpace (text : List Char) : List Char :=
  ((text.dropWhile isTextSpace).reverse.dropWhile isTextSpace).reverse

theorem stripSpace_within (text : List Char) : stripSpace text <:+: text := by
  unfold stripSpace
  have inner := List.dropWhile_suffix isTextSpace (l := (text.dropWhile isTextSpace).reverse)
  rw [← List.reverse_prefix, List.reverse_reverse] at inner
  exact inner.isInfix.trans (List.dropWhile_suffix _).isInfix

theorem length_stripSpace_le (text : List Char) : (stripSpace text).length ≤ text.length :=
  (stripSpace_within text).length_le

theorem stripSpace_stripSpace (text : List Char) :
    stripSpace (stripSpace text) = stripSpace text := by
  have right : stripSpace text = (text.dropWhile isTextSpace).rdropWhile isTextSpace := rfl
  have within := List.rdropWhile_prefix isTextSpace (text.dropWhile isTextSpace)
  have left : (stripSpace text).dropWhile isTextSpace = stripSpace text := by
    rw [List.dropWhile_eq_self_iff, right]
    intro nonempty
    rw [List.IsPrefix.getElem within nonempty]
    exact List.dropWhile_get_zero_not _ _ (by have := within.length_le; omega)
  have again : stripSpace (stripSpace text) =
      ((stripSpace text).dropWhile isTextSpace).rdropWhile isTextSpace := rfl
  rw [again, left, right, List.rdropWhile_idempotent]

/-- The zeros of the decimal digits in Unicode; the other nine follow each. -/
def decimalZeros : List Nat :=
  [0x30, 0x660, 0x6F0, 0x7C0, 0x966, 0x9E6, 0xA66, 0xAE6, 0xB66, 0xBE6, 0xC66, 0xCE6, 0xD66,
    0xDE6, 0xE50, 0xED0, 0xF20, 0x1040, 0x1090, 0x17E0, 0x1810, 0x1946, 0x19D0, 0x1A80, 0x1A90,
    0x1B50, 0x1BB0, 0x1C40, 0x1C50, 0xA620, 0xA8D0, 0xA900, 0xA9D0, 0xA9F0, 0xAA50, 0xABF0,
    0xFF10, 0x104A0, 0x10D30, 0x11066, 0x110F0, 0x11136, 0x111D0, 0x112F0, 0x11450, 0x114D0,
    0x11650, 0x116C0, 0x11730, 0x118E0, 0x11950, 0x11C50, 0x11D50, 0x11DA0, 0x16A60, 0x16AC0,
    0x16B50, 0x1D7CE, 0x1D7D8, 0x1D7E2, 0x1D7EC, 0x1D7F6, 0x1E140, 0x1E2F0, 0x1E950, 0x1FBF0]

def decimalDigit? (character : Char) : Option Nat :=
  (decimalZeros.find? fun first => first ≤ character.toNat && character.toNat < first + 10).map
    fun first => character.toNat - first

/-- The digits of an integer literal. One underscore may stand between two of them. -/
def literalDigits? : List Char → Option (List Nat)
  | [] => none
  | [last] => (decimalDigit? last).map ([·])
  | digit :: '_' :: rest => do (← decimalDigit? digit) :: (← literalDigits? rest)
  | digit :: rest => do (← decimalDigit? digit) :: (← literalDigits? rest)

/-- `sys.int_info.default_max_str_digits`. -/
def maxStrDigits : Nat := 4300

def unsignedInt? (text : List Char) : Option Nat :=
  (literalDigits? text).bind fun digits =>
    if maxStrDigits < digits.length then none
    else some (digits.foldl (fun value digit => value * 10 + digit) 0)

/-- `int(text)`; none where it raises a `ValueError`. -/
def textInt? (text : List Char) : Option Int :=
  match stripSpace text with
  | '-' :: digits => (unsignedInt? digits).map fun value => -(value : Int)
  | '+' :: digits => (unsignedInt? digits).map fun value => (value : Int)
  | digits => (unsignedInt? digits).map fun value => (value : Int)

namespace Json

/-- `int(value)`. A float loses its fraction. -/
def toInt : Json → Except ConversionError Int
  | .integer value => .ok value
  | .bool value => .ok (if value then 1 else 0)
  | .float literal =>
      let value := FloatLiteral.nearestDouble (FloatLiteral.decimalValue literal.text)
      .ok (value.num.tdiv value.den)
  | .notANumber => .error .valueError
  | .infinity _ => .error .overflowError
  | .string text => match textInt? text.toList with
      | some value => .ok value
      | none => .error .valueError
  | .null | .array _ | .object _ => .error .typeError

example : toInt (.string " -1_2 ") = .ok (-12) := by decide +kernel

/-- `str(value)`. A container is shown by its JSON text, which tells containers apart as
Python's own spelling does. -/
def toStr : Json → String
  | .null => "None"
  | .bool value => if value then "True" else "False"
  | .integer value => toString value
  | .float literal => String.ofList literal.text
  | .notANumber => "nan"
  | .infinity negative => if negative then "-inf" else "inf"
  | .string text => text
  | .array items => String.ofList (JsonText.encode (.array items))
  | .object members => String.ofList (JsonText.encode (.object members))

/-- What a key becomes when the dictionary is written as JSON; lists and dictionaries
cannot be keys. -/
def keyText : Json → Except ConversionError String
  | .string text => .ok text
  | .null => .ok "null"
  | .bool value => .ok (if value then "true" else "false")
  | .integer value => .ok (toString value)
  | .float literal => .ok (String.ofList literal.text)
  | .notANumber => .ok "NaN"
  | .infinity negative => .ok (if negative then "-Infinity" else "Infinity")
  | .array _ | .object _ => .error .typeError

/-- The two items of an element of the list that `dict` is applied to. -/
def toPair : Json → Except ConversionError (Json × Json)
  | .array items => match items with
      | [key, value] => .ok (key, value)
      | _ => .error .valueError
  | .string text => match text.toList with
      | [key, value] => .ok (.string (String.ofList [key]), .string (String.ofList [value]))
      | _ => .error .valueError
  | .object members => match members with
      | [(key, _), (value, _)] => .ok (.string key, .string value)
      | _ => .error .valueError
  | .null | .bool _ | .integer _ | .float _ | .notANumber | .infinity _ => .error .typeError

/-- `dict(items)`. -/
def pairsToDict (items : List Json) : Except ConversionError (List (String × Json)) :=
  items.foldlM (fun members item => do
    let (key, value) ← item.toPair
    .ok (assign members (← key.keyText) value)) []

/-- `dict(value)`. -/
def toDict : Json → Except ConversionError (List (String × Json))
  | .object members => .ok members
  | .array items => pairsToDict items
  | .string text => if text = "" then .ok [] else .error .valueError
  | .null | .bool _ | .integer _ | .float _ | .notANumber | .infinity _ => .error .typeError

end Json

end Foundation
