import Mathlib.Data.Int.Log
import Mathlib.Data.Rat.Floor
import SupportGuard.Foundation.JsonRelation

/-! # Python's equality of decoded JSON

`==` compares booleans, integers and floats by their value, and dictionaries whatever
the order of their keys. A NaN equals nothing. -/

namespace Foundation

/-! ## The value of a float -/

namespace FloatLiteral

def digitsValue (digits : List Char) : Nat :=
  digits.foldl (fun value digit => value * 10 + (digit.toNat - '0'.toNat)) 0

/-- A decimal exponent with its sign. -/
def exponentValue : List Char → Int
  | '-' :: digits => -(digitsValue digits : Int)
  | '+' :: digits => digitsValue digits
  | digits => digitsValue digits

/-- The number a decimal spelling without a sign reads. -/
def unsignedValue (text : List Char) : ℚ :=
  let mantissa := text.takeWhile fun character => character ≠ 'e' && character ≠ 'E'
  let exponent := exponentValue (text.drop (mantissa.length + 1))
  let whole := mantissa.takeWhile (· ≠ '.')
  let fraction := mantissa.drop (whole.length + 1)
  (digitsValue (whole ++ fraction) : ℚ) * (10 : ℚ) ^ (exponent - fraction.length)

def decimalValue : List Char → ℚ
  | '-' :: text => -unsignedValue text
  | text => unsignedValue text

/-- The nearest integer, and the even one of two. -/
def roundEven (value : ℚ) : Int :=
  let below := ⌊value⌋
  if value - below < 1 / 2 then below
  else if 1 / 2 < value - below then below + 1
  else if below % 2 = 0 then below
  else below + 1

/-- The binary floating-point number of double precision nearest to a number. -/
def nearestDouble (value : ℚ) : ℚ :=
  if value = 0 then 0
  else
    let unit := max (Int.log 2 |value|) (-1022) - 52
    roundEven (value / (2 : ℚ) ^ unit) * (2 : ℚ) ^ unit

/-- The integer a float equals, if it equals one. -/
def integer? (literal : FloatLiteral) : Option Int :=
  let value := nearestDouble (decimalValue literal.text)
  if value.den = 1 then some value.num else none

example : integer? ⟨"-0.0".toList, by decide⟩ = some 0 := by decide +kernel

example : integer? ⟨"1e+23".toList, by decide⟩ = some 99999999999999991611392 := by
  decide +kernel

end FloatLiteral

namespace Json

/-! ## Values in one spelling -/

mutual
/-- Spell equal numbers alike and list members in key order. The shortest spelling of a
float that is no integer is its own. -/
def plain : Json → Json
  | .bool value => .integer (if value then 1 else 0)
  | .float literal => match literal.integer? with
      | some value => .integer value
      | none => .float literal
  | .array items => .array (plainItems items)
  | .object members => .object ((plainMembers members).insertionSort memberLe)
  | .null => .null
  | .integer value => .integer value
  | .notANumber => .notANumber
  | .infinity negative => .infinity negative
  | .string value => .string value

def plainItems : List Json → List Json
  | [] => []
  | head :: tail => head.plain :: plainItems tail

def plainMembers : List (String × Json) → List (String × Json)
  | [] => []
  | (key, value) :: tail => (key, value.plain) :: plainMembers tail
end

theorem plainMembers_eq_map (members : List (String × Json)) :
    plainMembers members = members.map fun member => (member.1, member.2.plain) := by
  induction members with
  | nil => rfl
  | cons head tail induction => simp [plainMembers, induction]

mutual
def holdsNaN : Json → Bool
  | .notANumber => true
  | .array items => itemsHoldNaN items
  | .object members => membersHoldNaN members
  | _ => false

def itemsHoldNaN : List Json → Bool
  | [] => false
  | head :: tail => head.holdsNaN || itemsHoldNaN tail

def membersHoldNaN : List (String × Json) → Bool
  | [] => false
  | (_, value) :: tail => value.holdsNaN || membersHoldNaN tail
end

/-! ## Equality -/

/-- `==`. -/
def pyEq (left right : Json) : Bool :=
  left.plain = right.plain && !left.holdsNaN && !right.holdsNaN

theorem pyEq_iff {left right : Json} :
    left.pyEq right = true ↔
      left.plain = right.plain ∧ left.holdsNaN = false ∧ right.holdsNaN = false := by
  simp [pyEq, and_assoc]

theorem pyEq_self {value : Json} : value.pyEq value = true ↔ value.holdsNaN = false := by
  simp [pyEq]

theorem pyEq_symm {left right : Json} (equal : left.pyEq right = true) :
    right.pyEq left = true := by
  rw [pyEq_iff] at equal ⊢
  exact ⟨equal.1.symm, equal.2.2, equal.2.1⟩

theorem pyEq_trans {first second third : Json} (early : first.pyEq second = true)
    (late : second.pyEq third = true) : first.pyEq third = true := by
  rw [pyEq_iff] at early late ⊢
  exact ⟨early.1.trans late.1, early.2.1, late.2.2⟩

theorem pyEq_string {text : String} {value : Json}
    (equal : value.pyEq (.string text) = true) : value = .string text := by
  rw [pyEq_iff] at equal
  cases value with
  | float literal =>
      have spelled := equal.1
      simp only [plain] at spelled
      split at spelled <;> cases spelled
  | string value => simpa [plain] using equal.1
  | _ => simp [plain] at equal

theorem membersHoldNaN_eq_false {members : List (String × Json)} :
    membersHoldNaN members = false ↔ ∀ member ∈ members, member.2.holdsNaN = false := by
  induction members with
  | nil => simp [membersHoldNaN]
  | cons head tail induction => simp [membersHoldNaN, induction]

/-- Dictionaries with the same keys and equal values are equal. -/
theorem pyEq_object {left right : List (String × Json)}
    (leftUnique : (left.map Prod.fst).Nodup) (rightUnique : (right.map Prod.fst).Nodup)
    (keys : ∀ key, key ∈ left.map Prod.fst ↔ key ∈ right.map Prod.fst)
    (values : ∀ key value other, (key, value) ∈ left → (key, other) ∈ right →
      value.pyEq other = true) :
    (Json.object left).pyEq (.object right) = true := by
  have leftPairs : ∀ key value, (key, value) ∈ left →
      ∃ other, (key, other) ∈ right ∧ value.pyEq other = true := by
    intro key value member
    have present := (keys key).mp (List.mem_map_of_mem member)
    rcases List.mem_map.mp present with ⟨⟨_, other⟩, otherMember, rfl⟩
    exact ⟨other, otherMember, values _ value other member otherMember⟩
  have rightPairs : ∀ key other, (key, other) ∈ right →
      ∃ value, (key, value) ∈ left ∧ value.pyEq other = true := by
    intro key other member
    have present := (keys key).mpr (List.mem_map_of_mem member)
    rcases List.mem_map.mp present with ⟨⟨_, value⟩, valueMember, rfl⟩
    exact ⟨value, valueMember, values _ value other valueMember member⟩
  have spelledKeys (members : List (String × Json)) :
      (plainMembers members).map Prod.fst = members.map Prod.fst := by
    rw [plainMembers_eq_map, List.map_map]
    rfl
  have permutation : (plainMembers left).Perm (plainMembers right) := by
    rw [List.perm_ext_iff_of_nodup]
    · intro member
      rw [plainMembers_eq_map, plainMembers_eq_map, List.mem_map, List.mem_map]
      constructor
      · intro found
        rcases found with ⟨⟨key, value⟩, valueMember, rfl⟩
        rcases leftPairs key value valueMember with ⟨other, otherMember, equal⟩
        exact ⟨(key, other), otherMember, by rw [(pyEq_iff.mp equal).1]⟩
      · intro found
        rcases found with ⟨⟨key, other⟩, otherMember, rfl⟩
        rcases rightPairs key other otherMember with ⟨value, valueMember, equal⟩
        exact ⟨(key, value), valueMember, by rw [(pyEq_iff.mp equal).1]⟩
    · exact List.Nodup.of_map Prod.fst ((spelledKeys left).symm ▸ leftUnique)
    · exact List.Nodup.of_map Prod.fst ((spelledKeys right).symm ▸ rightUnique)
  rw [pyEq_iff]
  refine ⟨?_, ?_, ?_⟩
  · rw [plain, plain, insertionSort_eq_of_perm permutation]
    rw [spelledKeys]
    exact leftUnique
  · rw [holdsNaN, membersHoldNaN_eq_false]
    intro member valueMember
    rcases leftPairs member.1 member.2 valueMember with ⟨other, _, equal⟩
    exact (pyEq_iff.mp equal).2.1
  · rw [holdsNaN, membersHoldNaN_eq_false]
    intro member otherMember
    rcases rightPairs member.1 member.2 otherMember with ⟨value, _, equal⟩
    exact (pyEq_iff.mp equal).2.2

/-! ## Truth -/

/-- `bool(value)`. -/
def truthy : Json → Bool
  | .null => false
  | .bool value => value
  | .integer value => value ≠ 0
  | .float literal => literal.integer? ≠ some 0
  | .notANumber | .infinity _ => true
  | .string text => text ≠ ""
  | .array items => items ≠ []
  | .object members => members ≠ []

end Json

end Foundation
