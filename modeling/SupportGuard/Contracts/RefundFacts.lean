import Mathlib.Tactic.Positivity
import SupportGuard.Contracts.RefundPolicy

/-! # The facts of a refund pair

Facts that are equal as values may be written differently: an amount may have more fraction
digits, a charge may carry another offset from UTC. The checks see the values; the hash sees the
amounts as they are written. -/

namespace SupportGuard

open Foundation Fallible

/-! ## Decimals as numbers -/

namespace PyDecimal

/-- The number that a finite decimal stands for. -/
def number (negative : Bool) (coefficient : Nat) (exponent : Int) : ℚ :=
  (if negative then -1 else 1) * coefficient * 10 ^ exponent

theorem equal_finite_iff {negative otherNegative : Bool} {coefficient otherCoefficient : Nat}
    {exponent otherExponent : Int} :
    (finite negative coefficient exponent).equal
        (finite otherNegative otherCoefficient otherExponent) = true ↔
      number negative coefficient exponent =
        number otherNegative otherCoefficient otherExponent := by
  have scale : ∀ (sign : Bool) (digits : Nat) {power : Int},
      min exponent otherExponent ≤ power →
      number sign digits power =
        (((if sign then -1 else 1) * digits *
          10 ^ (power - min exponent otherExponent).toNat : Int) : ℚ) *
            10 ^ min exponent otherExponent := by
    intro sign digits power above
    have split : power = ((power - min exponent otherExponent).toNat : Int) +
        min exponent otherExponent := by omega
    have nonzero : (10 : ℚ) ≠ 0 := by norm_num
    conv_lhs => rw [number, split, zpow_add₀ nonzero, zpow_natCast, ← mul_assoc]
    cases sign <;> simp
  have positive : (10 : ℚ) ^ min exponent otherExponent ≠ 0 := zpow_ne_zero _ (by norm_num)
  rw [scale negative coefficient (min_le_left _ _),
    scale otherNegative otherCoefficient (min_le_right _ _), mul_left_inj' positive]
  simp only [equal, decide_eq_true_eq, Int.cast_inj]

/-- The digits after the decimal point. -/
def fractionDigits : PyDecimal → Nat
  | finite _ _ exponent => (-exponent).toNat
  | infinity _ | notANumber => 0

def isZero : PyDecimal → Bool
  | finite _ coefficient _ => coefficient = 0
  | infinity _ | notANumber => false

/-- Two amounts have the same number of fraction digits, or are both zero. -/
def WrittenAlike (left right : PyDecimal) : Prop :=
  left.fractionDigits = right.fractionDigits ∨ left.isZero = true ∧ right.isZero = true

theorem toDigits_scaled {coefficient : Nat} (positive : 0 < coefficient) (zeros : Nat) :
    Nat.toDigits 10 (coefficient * 10 ^ zeros) =
      Nat.toDigits 10 coefficient ++ List.replicate zeros '0' := by
  induction zeros with
  | zero => simp
  | succ zeros induction =>
      have shifted : coefficient * 10 ^ (zeros + 1) = 10 * (coefficient * 10 ^ zeros) + 0 := by
        ring
      have nonzero : 0 < coefficient * 10 ^ zeros := by positivity
      rw [shifted, ← Nat.toDigits_append_toDigits (by omega) nonzero (by omega), induction,
        List.replicate_succ', List.append_assoc]
      rfl

theorem fixedDigits_integer {coefficient : Nat} (positive : 0 < coefficient) {exponent : Int}
    (whole : 0 ≤ exponent) :
    fixedDigits coefficient exponent =
      Nat.toDigits 10 (coefficient * 10 ^ exponent.toNat) := by
  rw [fixedDigits, if_pos whole, toDigits_scaled positive]

theorem number_eq_zero_iff {negative : Bool} {coefficient : Nat} {exponent : Int} :
    number negative coefficient exponent = 0 ↔ coefficient = 0 := by
  have power : (10 : ℚ) ^ exponent ≠ 0 := zpow_ne_zero _ (by norm_num)
  cases negative <;> simp [number, power]

theorem number_pos_iff {negative : Bool} {coefficient : Nat} {exponent : Int}
    (nonzero : coefficient ≠ 0) : 0 < number negative coefficient exponent ↔ negative = false := by
  have power : 0 < (10 : ℚ) ^ exponent := zpow_pos (by norm_num) _
  have digits : 0 < (coefficient : ℚ) := by
    exact_mod_cast Nat.pos_of_ne_zero nonzero
  have product : 0 < (coefficient : ℚ) * 10 ^ exponent := mul_pos digits power
  cases negative with
  | false => simp [number, product]
  | true =>
      have below : number true coefficient exponent < 0 := by
        simp only [number, if_true]
        linarith
      simp [not_lt_of_gt below]

/-- Equal numbers with as many fraction digits have the same digits. -/
theorem fixedDigits_congr {coefficient other : Nat} {exponent otherExponent : Int}
    (nonzero : coefficient ≠ 0) (otherNonzero : other ≠ 0)
    (same : (coefficient : ℚ) * 10 ^ exponent = other * 10 ^ otherExponent)
    (digits : (-exponent).toNat = (-otherExponent).toNat) :
    fixedDigits coefficient exponent = fixedDigits other otherExponent := by
  by_cases whole : 0 ≤ exponent
  · have otherWhole : 0 ≤ otherExponent := by omega
    rw [fixedDigits_integer (Nat.pos_of_ne_zero nonzero) whole,
      fixedDigits_integer (Nat.pos_of_ne_zero otherNonzero) otherWhole]
    have equal : coefficient * 10 ^ exponent.toNat = other * 10 ^ otherExponent.toNat := by
      rw [← Int.toNat_of_nonneg whole, ← Int.toNat_of_nonneg otherWhole, zpow_natCast,
        zpow_natCast] at same
      exact_mod_cast same
    rw [equal]
  · have exponents : exponent = otherExponent := by omega
    subst exponents
    have power : (10 : ℚ) ^ exponent ≠ 0 := zpow_ne_zero _ (by norm_num)
    have coefficients : (coefficient : ℚ) = other := mul_right_cancel₀ power same
    rw [Nat.cast_injective coefficients]

end PyDecimal

/-- Equal amounts that are written alike have one canonical text. -/
theorem canonicalDecimalString_congr {left right : PyDecimal} (same : left.equal right = true)
    (alike : left.WrittenAlike right) :
    canonicalDecimalString left = canonicalDecimalString right := by
  cases left with
  | notANumber => cases same
  | infinity negative =>
      cases right with
      | infinity otherNegative => rfl
      | finite | notANumber => cases same
  | finite negative coefficient exponent =>
      cases right with
      | infinity | notANumber => cases same
      | finite otherNegative other otherExponent =>
          have numbers := PyDecimal.equal_finite_iff.mp same
          have zeros : coefficient = 0 ↔ other = 0 := by
            rw [← PyDecimal.number_eq_zero_iff, numbers, PyDecimal.number_eq_zero_iff]
          by_cases zero : coefficient = 0
          · simp [canonicalDecimalString, zero, zeros.mp zero]
          · have otherNonzero : other ≠ 0 := fun otherZero => zero (zeros.mpr otherZero)
            have signs : negative = otherNegative := by
              have positive := @PyDecimal.number_pos_iff negative coefficient exponent zero
              rw [numbers, PyDecimal.number_pos_iff otherNonzero] at positive
              cases negative <;> cases otherNegative <;> simp at positive ⊢
            subst signs
            have digits : (-exponent).toNat = (-otherExponent).toNat := by
              rcases alike with digits | bothZero
              · exact digits
              · exact absurd (of_decide_eq_true bothZero.1) zero
            have magnitudes : (coefficient : ℚ) * 10 ^ exponent = other * 10 ^ otherExponent := by
              cases negative <;> simpa [PyDecimal.number] using numbers
            simp only [canonicalDecimalString, if_neg zero, if_neg otherNonzero,
              PyDecimal.fixedDigits_congr zero otherNonzero magnitudes digits]

/-- Equality of decimals is transitive, as it is equality of numbers. -/
theorem PyDecimal.equal_trans {first second third : PyDecimal}
    (left : first.equal second = true) (right : second.equal third = true) :
    first.equal third = true := by
  cases second with
  | notANumber => cases first <;> cases left
  | infinity negative =>
      cases first with
      | infinity firstNegative =>
          cases third with
          | infinity thirdNegative =>
              exact decide_eq_true ((of_decide_eq_true left).trans (of_decide_eq_true right))
          | finite | notANumber => cases right
      | finite | notANumber => cases left
  | finite negative coefficient exponent =>
      cases first with
      | infinity | notANumber => cases left
      | finite firstNegative firstCoefficient firstExponent =>
          cases third with
          | infinity | notANumber => cases right
          | finite thirdNegative thirdCoefficient thirdExponent =>
              rw [equal_finite_iff] at left right ⊢
              exact left.trans right

theorem PyDecimal.equal_symm {left right : PyDecimal} (same : left.equal right = true) :
    right.equal left = true := by
  cases left with
  | notANumber => cases same
  | infinity negative =>
      cases right with
      | infinity otherNegative => exact decide_eq_true (of_decide_eq_true same).symm
      | finite | notANumber => cases same
  | finite negative coefficient exponent =>
      cases right with
      | infinity | notANumber => cases same
      | finite otherNegative otherCoefficient otherExponent =>
          rw [equal_finite_iff] at same ⊢
          exact same.symm

/-! ## Facts -/

/-- The microseconds of a date-time in UTC; a naive one reads UTC. -/
def utcMicroseconds (value : DateTime) : Int :=
  value.reading.microseconds - (value.offset.map UtcOffset.microseconds).getD 0

theorem awareUtc_congr {left right : DateTime}
    (same : utcMicroseconds left = utcMicroseconds right) : awareUtc left = awareUtc right := by
  have shifted : ∀ value : DateTime, value.instant? =
      if inRange : 0 ≤ utcMicroseconds value ∧
          (utcMicroseconds value).toNat < calendarDays * microsecondsPerDay then
        some ⟨(utcMicroseconds value).toNat, inRange.2⟩
      else none := by
    intro value
    cases value with
    | mk reading offset =>
        cases offset with
        | none =>
            have inRange := reading.inRange
            simp [DateTime.instant?, utcMicroseconds, inRange]
        | some offset => rfl
  simp only [awareUtc, shifted, same]

/-! ## Payloads have a hash -/

/-- The projection admits the value, wherever it stands. -/
def Projects (value : PyValue) : Prop :=
  ∀ path, ∃ tree, project path value = .ok tree

def EntriesProject (entries : List (PyKey × PyValue)) : Prop :=
  ∀ entry ∈ entries, ∃ name, entry.1 = pyKey name ∧ Projects entry.2

theorem projects_pyText (text : String) : Projects (pyText text) := by
  intro path
  simp [pyText, project, PyText.encode?_eq_some.mpr rfl]

theorem projects_integer (value : Int) : Projects (.integer value) :=
  fun _ => ⟨.integer value, by simp [project]⟩

variable {entries : List (PyKey × PyValue)}

theorem projectEntries_returns (admitted : EntriesProject entries) (path : String)
    (projected : List (String × Json)) :
    ∃ members, projectEntries path projected entries = .ok members := by
  induction entries generalizing projected with
  | nil => exact ⟨projected, by simp [projectEntries]⟩
  | cons entry rest induction =>
      obtain ⟨name, named, item⟩ := admitted entry List.mem_cons_self
      obtain ⟨tree, read⟩ := item s!"{path}.{name}"
      have following := induction (fun other member =>
        admitted other (List.mem_cons_of_mem entry member)) (assign projected name tree)
      cases entry with
      | mk key value =>
          subst named
          have encoded : (PyText.ofString name).encode? = some name :=
            PyText.encode?_eq_some.mpr rfl
          simpa [projectEntries, pyKey, encoded, read, bind, Except.bind] using following

theorem projects_dict (admitted : EntriesProject entries) :
    Projects (.dict entries) := by
  intro path
  obtain ⟨members, read⟩ := projectEntries_returns admitted path []
  exact ⟨.object members, by simp [project, read, bind, Except.bind]⟩

theorem canonicalJsonHash_returns {value : PyValue} (projects : Projects value) :
    ∃ pairHash, canonicalJsonHash value = .ok pairHash := by
  obtain ⟨tree, read⟩ := projects "$"
  exact ⟨_, by simp only [canonicalJsonHash, canonicalJsonBytes, read]; rfl⟩

theorem refundCharge_project {facts : RefundChargeFacts}
    (charged : refundCharge facts = .ok entries) : EntriesProject entries := by
  simp only [refundCharge, bind_eq_ok_iff] at charged
  obtain ⟨amount, _, chargedAt, _, written⟩ := charged
  cases written
  simp only [EntriesProject, List.forall_mem_cons]
  refine ⟨⟨_, rfl, projects_pyText _⟩, ⟨_, rfl, projects_pyText _⟩, ⟨_, rfl, projects_pyText _⟩,
    ⟨_, rfl, projects_pyText _⟩, ⟨_, rfl, projects_pyText _⟩, ⟨_, rfl, projects_pyText _⟩,
    ⟨_, rfl, projects_pyText _⟩, ⟨_, rfl, projects_pyText _⟩, ⟨_, rfl, projects_pyText _⟩,
    ⟨_, rfl, projects_integer _⟩, ?_⟩
  simp

theorem duplicateReference_project (duplicateOf : Option String) :
    EntriesProject [(pyKey "duplicate_of", match duplicateOf with
      | some id => pyText id
      | none => .none)] := by
  intro entry member
  rw [List.mem_singleton.mp member]
  refine ⟨_, rfl, ?_⟩
  cases duplicateOf with
  | none => exact fun path => ⟨.null, by simp [project]⟩
  | some id => exact projects_pyText id

theorem entriesProject_append {entries later : List (PyKey × PyValue)}
    (projects : EntriesProject entries) (laterProjects : EntriesProject later) :
    EntriesProject (entries ++ later) := by
  intro entry member
  rcases List.mem_append.mp member with earlier | last
  · exact projects entry earlier
  · exact laterProjects entry last

theorem refundPairPayload_hash {target original : RefundChargeFacts} {payload : PyValue}
    (built : refundPairPayload target original = .ok payload) :
    ∃ pairHash, canonicalJsonHash payload = .ok pairHash := by
  simp only [refundPairPayload, bind_eq_ok_iff] at built
  obtain ⟨originalCharge, originalCharged, targetCharge, targetCharged, written⟩ := built
  cases written
  have charges := entriesProject_append (refundCharge_project targetCharged)
    (duplicateReference_project target.duplicateOf)
  apply canonicalJsonHash_returns
  apply projects_dict
  simp only [EntriesProject, List.forall_mem_cons]
  refine ⟨⟨_, rfl, projects_dict (refundCharge_project originalCharged)⟩,
    ⟨_, rfl, projects_pyText _⟩, ⟨_, rfl, projects_dict charges⟩,
    ⟨_, rfl, projects_integer _⟩, ?_⟩
  simp

/-! ## Equal facts -/

/-- Facts that are equal as values. -/
structure SameFacts (left right : RefundChargeFacts) : Prop where
  billingRecordId : left.billingRecordId = right.billingRecordId
  tenantId : left.tenantId = right.tenantId
  customerId : left.customerId = right.customerId
  amount : left.amount.equal right.amount = true
  currency : left.currency = right.currency
  status : left.status = right.status
  chargedAt : utcMicroseconds left.chargedAt = utcMicroseconds right.chargedAt
  servicePeriodStart : left.servicePeriodStart = right.servicePeriodStart
  servicePeriodEnd : left.servicePeriodEnd = right.servicePeriodEnd
  version : left.version = right.version
  duplicateOf : left.duplicateOf = right.duplicateOf

/-- Equal amounts are both finite. -/
theorem canonicalDecimalString_isOk_congr {left right : PyDecimal}
    (same : left.equal right = true) :
    (canonicalDecimalString left).map (fun _ => ()) =
      (canonicalDecimalString right).map fun _ => () := by
  have finite : ∀ negative coefficient exponent,
      (canonicalDecimalString (.finite negative coefficient exponent)).map (fun _ => ()) =
        .ok () := by
    intro negative coefficient exponent
    rw [canonicalDecimalString]
    split <;> rfl
  cases left with
  | notANumber => cases same
  | infinity negative =>
      cases right with
      | infinity otherNegative => rfl
      | finite | notANumber => cases same
  | finite negative coefficient exponent =>
      cases right with
      | infinity | notANumber => cases same
      | finite otherNegative other otherExponent => rw [finite, finite]

section SameFacts

variable {target sameTarget original sameOriginal : RefundChargeFacts}
  (targets : SameFacts target sameTarget) (originals : SameFacts original sameOriginal)

include targets in
theorem refundCharge_congr (alike : target.amount.WrittenAlike sameTarget.amount) :
    refundCharge target = refundCharge sameTarget := by
  simp only [refundCharge, canonicalDecimalString_congr targets.amount alike,
    awareUtc_congr targets.chargedAt, targets.billingRecordId, targets.currency,
    targets.customerId, targets.servicePeriodEnd, targets.servicePeriodStart, targets.status,
    targets.tenantId, targets.version]

include targets originals

theorem refundPairPayload_congr (alike : target.amount.WrittenAlike sameTarget.amount)
    (originalAlike : original.amount.WrittenAlike sameOriginal.amount) :
    refundPairPayload target original = refundPairPayload sameTarget sameOriginal := by
  simp only [refundPairPayload, refundCharge_congr targets alike,
    refundCharge_congr originals originalAlike, targets.duplicateOf]

/-- Both payloads are built, or both raise the same error. -/
theorem refundPairPayload_isOk_congr :
    (refundPairPayload target original).map (fun _ => ()) =
      (refundPairPayload sameTarget sameOriginal).map fun _ => () := by
  have charges : ∀ {facts same : RefundChargeFacts}, SameFacts facts same →
      (refundCharge facts).map (fun _ => ()) = (refundCharge same).map fun _ => () := by
    intro facts same equal
    have amounts := canonicalDecimalString_isOk_congr equal.amount
    simp only [refundCharge, awareUtc_congr equal.chargedAt]
    cases written : canonicalDecimalString facts.amount <;>
      cases sameWritten : canonicalDecimalString same.amount <;>
      rw [written, sameWritten] at amounts <;> cases amounts <;>
      cases awareUtc same.chargedAt <;> rfl
  have targetCharges := charges targets
  have originalCharges := charges originals
  simp only [refundPairPayload]
  cases originalCharged : refundCharge original <;>
    cases sameOriginalCharged : refundCharge sameOriginal <;>
    rw [originalCharged, sameOriginalCharged] at originalCharges <;> cases originalCharges <;>
    cases targetCharged : refundCharge target <;>
    cases sameTargetCharged : refundCharge sameTarget <;>
    rw [targetCharged, sameTargetCharged] at targetCharges <;> cases targetCharges <;> rfl

theorem refundPairChecks_congr (current targetChargedAt : Instant)
    (originalChargedAt : Option Instant) :
    refundPairChecks target (some original) current targetChargedAt originalChargedAt =
      refundPairChecks sameTarget (some sameOriginal) current targetChargedAt
        originalChargedAt := by
  have amounts : target.amount.equal original.amount =
      sameTarget.amount.equal sameOriginal.amount := by
    rw [Bool.eq_iff_iff]
    constructor
    · intro equal
      exact PyDecimal.equal_trans
        (PyDecimal.equal_trans (PyDecimal.equal_symm targets.amount) equal) originals.amount
    · intro equal
      exact PyDecimal.equal_trans (PyDecimal.equal_trans targets.amount equal)
        (PyDecimal.equal_symm originals.amount)
  simp only [refundPairChecks, Option.any_some, amounts, targets.billingRecordId,
    targets.tenantId, targets.customerId, targets.currency, targets.status,
    targets.servicePeriodStart, targets.servicePeriodEnd, targets.duplicateOf,
    originals.billingRecordId, originals.tenantId, originals.customerId, originals.currency,
    originals.status, originals.servicePeriodStart, originals.servicePeriodEnd]

theorem evaluateRefundPair_checks_congr (now : DateTime) :
    (evaluateRefundPair target (some original) now).map RefundPairEvaluation.checks =
      (evaluateRefundPair sameTarget (some sameOriginal) now).map
        RefundPairEvaluation.checks := by
  have payloads := refundPairPayload_isOk_congr targets originals
  simp only [evaluateRefundPair, ← awareUtc_congr targets.chargedAt,
    ← awareUtc_congr originals.chargedAt]
  cases awareUtc now with
  | error raised => rfl
  | ok current =>
  cases awareUtc target.chargedAt with
  | error raised => rfl
  | ok targetChargedAt =>
  cases awareUtc original.chargedAt with
  | error raised => rfl
  | ok originalChargedAt =>
  cases built : refundPairPayload target original with
  | error raised =>
      cases sameBuilt : refundPairPayload sameTarget sameOriginal with
      | error sameRaised =>
          rw [built, sameBuilt] at payloads
          cases payloads
          rfl
      | ok payload =>
          rw [built, sameBuilt] at payloads
          cases payloads
  | ok payload =>
      cases sameBuilt : refundPairPayload sameTarget sameOriginal with
      | error sameRaised =>
          rw [built, sameBuilt] at payloads
          cases payloads
      | ok samePayload =>
          obtain ⟨pairHash, hashed⟩ := refundPairPayload_hash built
          obtain ⟨samePairHash, sameHashed⟩ := refundPairPayload_hash sameBuilt
          simp only [bind, Except.bind, hashed, sameHashed, Except.mapError, Except.map,
            refundPairChecks_congr targets originals]

theorem evaluateRefundPair_congr (alike : target.amount.WrittenAlike sameTarget.amount)
    (originalAlike : original.amount.WrittenAlike sameOriginal.amount) (now : DateTime) :
    (evaluateRefundPair target (some original) now).map
        (fun evaluation => (evaluation.checks, evaluation.pairHash)) =
      (evaluateRefundPair sameTarget (some sameOriginal) now).map
        fun evaluation => (evaluation.checks, evaluation.pairHash) := by
  simp only [evaluateRefundPair, ← awareUtc_congr targets.chargedAt,
    ← awareUtc_congr originals.chargedAt,
    ← refundPairPayload_congr targets originals alike originalAlike]
  cases awareUtc now with
  | error raised => rfl
  | ok current =>
  cases awareUtc target.chargedAt with
  | error raised => rfl
  | ok targetChargedAt =>
  cases awareUtc original.chargedAt with
  | error raised => rfl
  | ok originalChargedAt =>
  cases refundPairPayload target original with
  | error raised => rfl
  | ok payload =>
      cases hashed : canonicalJsonHash payload with
      | error raised => simp only [bind, Except.bind, hashed, Except.mapError, Except.map]
      | ok pairHash =>
          simp only [bind, Except.bind, hashed, Except.mapError, Except.map,
            refundPairChecks_congr targets originals]

end SameFacts

/-- The checks of a pair depend on the values of the facts; the payload and its hash as well,
where the amounts are written with as many fraction digits or are zero. -/
theorem refundPair_dependsOnFacts {target sameTarget original sameOriginal : RefundChargeFacts}
    (targets : SameFacts target sameTarget) (originals : SameFacts original sameOriginal) :
    (∀ now, (evaluateRefundPair target (some original) now).map RefundPairEvaluation.checks =
      (evaluateRefundPair sameTarget (some sameOriginal) now).map
        RefundPairEvaluation.checks) ∧
    (target.amount.WrittenAlike sameTarget.amount →
      original.amount.WrittenAlike sameOriginal.amount →
      refundPairPayload target original = refundPairPayload sameTarget sameOriginal ∧
      ∀ now, (evaluateRefundPair target (some original) now).map
          (fun evaluation => (evaluation.checks, evaluation.pairHash)) =
        (evaluateRefundPair sameTarget (some sameOriginal) now).map
          fun evaluation => (evaluation.checks, evaluation.pairHash)) := by
  constructor
  · exact evaluateRefundPair_checks_congr targets originals
  · intro alike originalAlike
    constructor
    · exact refundPairPayload_congr targets originals alike originalAlike
    · exact evaluateRefundPair_congr targets originals alike originalAlike

/-! A charge of ten dollars, read from a column without offsets or given with one. -/

def chargeFacts (id : String) (amount : PyDecimal) (chargedAt : DateTime) : RefundChargeFacts where
  billingRecordId := id
  tenantId := "t"
  customerId := "c"
  amount := amount
  currency := "USD"
  status := "charged"
  chargedAt := chargedAt
  servicePeriodStart := ⟨2026, 7, 1⟩
  servicePeriodEnd := ⟨2026, 8, 1⟩
  version := 1
  duplicateOf := if id = "bill-2" then some "bill-1" else none

/-- One moment of 2026, without an offset and an hour ahead of UTC. -/
def naiveCharge : DateTime := ⟨⟨63919670400000000, Instant.july2026_inRange⟩, none⟩

def aheadCharge : DateTime :=
  ⟨⟨63919674000000000, by decide⟩, some ⟨3600000000, by decide⟩⟩

theorem chargeFacts_same (id : String) {amount sameAmount : PyDecimal}
    (equal : amount.equal sameAmount = true) :
    SameFacts (chargeFacts id amount naiveCharge) (chargeFacts id sameAmount aheadCharge) := by
  have moments : utcMicroseconds naiveCharge = utcMicroseconds aheadCharge := by decide +kernel
  exact ⟨rfl, rfl, rfl, equal, rfl, rfl, moments, rfl, rfl, rfl, rfl⟩

def tenDollars : PyDecimal := .finite false 1000 (-2)

theorem refundPair_dependsOnFacts_ahead :
    refundPairPayload (chargeFacts "bill-2" tenDollars naiveCharge)
        (chargeFacts "bill-1" tenDollars naiveCharge) =
      refundPairPayload (chargeFacts "bill-2" tenDollars aheadCharge)
        (chargeFacts "bill-1" tenDollars aheadCharge) :=
  ((refundPair_dependsOnFacts (chargeFacts_same "bill-2" (by decide))
    (chargeFacts_same "bill-1" (by decide))).2 (.inl rfl) (.inl rfl)).1

/-- Ten dollars as `10.00` and as `10`: the hashes differ. -/
theorem refundPair_scale :
    ¬ ∀ target sameTarget original sameOriginal : RefundChargeFacts,
      SameFacts target sameTarget → SameFacts original sameOriginal →
        refundPairPayload target original = refundPairPayload sameTarget sameOriginal ∧
        ∀ now, (evaluateRefundPair target (some original) now).map
            (fun evaluation => (evaluation.checks, evaluation.pairHash)) =
          (evaluateRefundPair sameTarget (some sameOriginal) now).map
            fun evaluation => (evaluation.checks, evaluation.pairHash) := by
  intro property
  have same := (property _ _ _ _
    (chargeFacts_same "bill-2" (show tenDollars.equal (.finite false 10 0) = true by decide))
    (chargeFacts_same "bill-1" (show tenDollars.equal tenDollars = true by decide))).2
      naiveCharge
  have hashes := congrArg Except.toOption same
  revert hashes
  decide +kernel

end SupportGuard
