import SupportGuard.Foundation.JsonText
import SupportGuard.Foundation.PyEquality
import SupportGuard.Foundation.PyValue

/-! # JSON as a browser reads it

A number of the script language is a double, so reading a JSON text rounds its numbers.
Every integer up to 2^53 is a double. -/

namespace Foundation

/-- The values that JSON has in the script language. A number is finite here; only a
spelling past the largest double would read otherwise. -/
inductive JsValue
  | null
  | bool (value : Bool)
  | number (value : ℚ)
  | string (value : String)
  | array (items : List JsValue)
  | object (members : List (String × JsValue))

namespace JsValue

/-! ## Reading -/

mutual
/-- The value of a tree, its numbers rounded; of a repeated key the last member counts. -/
def ofJson (round : ℚ → ℚ) : Json → JsValue
  | .null | .notANumber | .infinity _ => .null
  | .bool value => .bool value
  | .integer value => .number (round value)
  | .float literal => .number (round (FloatLiteral.decimalValue literal.text))
  | .string value => .string value
  | .array items => .array (ofItems round items)
  | .object members =>
      .object ((ofMembers round members).foldl
        (fun entries member => assign entries member.1 member.2) [])

def ofItems (round : ℚ → ℚ) : List Json → List JsValue
  | [] => []
  | head :: tail => ofJson round head :: ofItems round tail

def ofMembers (round : ℚ → ℚ) : List (String × Json) → List (String × JsValue)
  | [] => []
  | (key, value) :: tail => (key, ofJson round value) :: ofMembers round tail
end

mutual
/-- Not-a-number and the infinities have no spelling in standard JSON. -/
def standard : Json → Bool
  | .notANumber | .infinity _ => false
  | .array items => standardItems items
  | .object members => standardMembers members
  | _ => true

def standardItems : List Json → Bool
  | [] => true
  | head :: tail => standard head && standardItems tail

def standardMembers : List (String × Json) → Bool
  | [] => true
  | (_, value) :: tail => standard value && standardMembers tail
end

/-- `JSON.parse`; none where it throws. -/
def parse? (text : List Char) : Option JsValue := do
  let tree ← JsonText.decode text
  if standard tree then some (ofJson FloatLiteral.nearestDouble tree) else none

/-- A property of an object; what is no object has none. -/
def property? (value : JsValue) (key : String) : Option JsValue :=
  match value with
  | .object members => members.lookup key
  | _ => none

/-- The value of a tree, its numbers as they are. -/
def exactly (tree : Json) : JsValue :=
  ofJson id tree

/-! ## Exact numbers -/

theorem roundEven_intCast (value : Int) : FloatLiteral.roundEven value = value := by
  simp [FloatLiteral.roundEven]

/-- An integer up to 2^53 is a whole number of the units that a double of its magnitude
counts in. -/
theorem scaled_intCast {value : Int} (nonzero : value ≠ 0) (small : value.natAbs ≤ 2 ^ 53) :
    ∃ scaled : Int, (value : ℚ) /
      (2 : ℚ) ^ (max (Int.log 2 |(value : ℚ)|) (-1022) - 52) = scaled := by
  have magnitude : |(value : ℚ)| = (value.natAbs : ℚ) := by
    rw [← Int.cast_abs, Int.abs_eq_natAbs, Int.cast_natCast]
  rw [magnitude, Int.log_natCast]
  by_cases edge : value.natAbs = 2 ^ 53
  · rw [edge, Nat.log_pow Nat.one_lt_two]
    rcases Int.natAbs_eq value with positive | negative
    · refine ⟨2 ^ 52, ?_⟩
      rw [positive, edge]
      norm_num
    · refine ⟨-2 ^ 52, ?_⟩
      rw [negative, edge]
      norm_num
  · have bound : Nat.log 2 value.natAbs < 53 := by
      apply Nat.log_lt_of_lt_pow
      · simpa using nonzero
      · omega
    obtain ⟨power, equal⟩ : ∃ power : Nat,
        max (Nat.log 2 value.natAbs : Int) (-1022) - 52 = -(power : Int) := by
      refine ⟨52 - Nat.log 2 value.natAbs, ?_⟩
      omega
    refine ⟨value * 2 ^ power, ?_⟩
    rw [equal, zpow_neg, div_inv_eq_mul]
    push_cast
    rfl

theorem nearestDouble_intCast {value : Int} (small : value.natAbs ≤ 2 ^ 53) :
    FloatLiteral.nearestDouble value = value := by
  by_cases zero : value = 0
  · simp [FloatLiteral.nearestDouble, zero]
  · obtain ⟨scaled, equal⟩ := scaled_intCast zero small
    have nonzero : ((value : Int) : ℚ) ≠ 0 := Int.cast_ne_zero.mpr zero
    rw [FloatLiteral.nearestDouble, if_neg nonzero]
    dsimp only
    rw [equal, roundEven_intCast, ← equal]
    apply div_mul_cancel₀
    exact zpow_ne_zero _ two_ne_zero

example : FloatLiteral.nearestDouble (2 ^ 53 + 1 : Int) = 2 ^ 53 := by
  decide +kernel

/-! ## Objects -/

theorem foldl_assign_of_nodup {members : List (String × JsValue)}
    {entries : List (String × JsValue)}
    (distinct : ((entries ++ members).map Prod.fst).Nodup) :
    members.foldl (fun entries member => assign entries member.1 member.2) entries =
      entries ++ members := by
  induction members generalizing entries with
  | nil => simp
  | cons member rest induction =>
      have absent : member.1 ∉ entries.map Prod.fst := by
        rw [List.map_append, List.nodup_append] at distinct
        intro present
        exact distinct.2.2 _ present _ (by simp) rfl
      rw [List.foldl_cons, assign_of_notMem _ absent]
      rw [induction (by simpa using distinct)]
      simp

theorem ofMembers_eq_map (round : ℚ → ℚ) (members : List (String × Json)) :
    ofMembers round members =
      members.map fun member => (member.1, ofJson round member.2) := by
  induction members with
  | nil => rfl
  | cons member rest induction => simp [ofMembers, induction]

variable {members : List (String × Json)}

theorem ofJson_object (round : ℚ → ℚ) (distinct : (members.map Prod.fst).Nodup) :
    ofJson round (.object members) =
      .object (members.map fun member => (member.1, ofJson round member.2)) := by
  rw [ofJson, ofMembers_eq_map, foldl_assign_of_nodup, List.nil_append]
  rw [List.nil_append, List.map_map]
  exact distinct

/-- Members that round alike make objects that do. -/
theorem ofJson_object_congr {left right : ℚ → ℚ}
    (alike : ∀ member ∈ members, ofJson left member.2 = ofJson right member.2) :
    ofJson left (.object members) = ofJson right (.object members) := by
  rw [ofJson, ofJson, ofMembers_eq_map, ofMembers_eq_map]
  congr 2
  apply List.map_congr_left
  intro member present
  rw [alike member present]

theorem ofJson_integer {value : Int} (small : value.natAbs ≤ 2 ^ 53) :
    ofJson FloatLiteral.nearestDouble (.integer value) = exactly (.integer value) := by
  rw [exactly, ofJson, ofJson, nearestDouble_intCast small]
  rfl

theorem standardMembers_of_forall (each : ∀ member ∈ members, standard member.2 = true) :
    standardMembers members = true := by
  induction members with
  | nil => rfl
  | cons member rest induction =>
      rw [standardMembers, each member List.mem_cons_self, Bool.true_and]
      exact induction fun other present => each other (List.mem_cons_of_mem _ present)

/-- Reading back what was written. -/
theorem parse?_write {tree : Json} (accepted : standard tree = true) :
    parse? (JsonText.write tree) = some (ofJson FloatLiteral.nearestDouble tree) := by
  simp [parse?, JsonText.decode_write, accepted]

end JsValue

end Foundation
