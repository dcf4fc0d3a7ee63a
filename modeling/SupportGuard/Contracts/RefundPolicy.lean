import SupportGuard.Contracts.CanonicalJson
import SupportGuard.Foundation.Calendar

/-! # The refund-pair policy

`contracts/refund_policy.py`: whether a charge may be refunded as the duplicate of
another one, and the hash of the facts that decision rests on. -/

namespace SupportGuard

open Foundation

/-! ## Decimals -/

/-- A decimal number: a finite one is its sign, its coefficient and the power of
ten the coefficient is scaled by. -/
inductive PyDecimal
  | finite (negative : Bool) (coefficient : Nat) (exponent : Int)
  | infinity (negative : Bool)
  | notANumber

namespace PyDecimal

/-- Numeric equality; finite numbers are compared at the smaller of the two
exponents. -/
def equal : PyDecimal → PyDecimal → Bool
  | .finite leftNegative left leftExponent, .finite rightNegative right rightExponent =>
      let low := min leftExponent rightExponent
      let scaled (negative : Bool) (coefficient : Nat) (exponent : Int) : Int :=
        (if negative then -1 else 1) * coefficient * 10 ^ (exponent - low).toNat
      scaled leftNegative left leftExponent = scaled rightNegative right rightExponent
  | .infinity left, .infinity right => left = right
  | _, _ => false

/-- The digits with the decimal point in place and without an exponent. -/
def fixedDigits (coefficient : Nat) (exponent : Int) : List Char :=
  let digits := Nat.toDigits 10 coefficient
  if 0 ≤ exponent then digits ++ List.replicate exponent.toNat '0'
  else
    let fraction := (-exponent).toNat
    if fraction < digits.length then
      digits.take (digits.length - fraction) ++ '.' ::
        digits.drop (digits.length - fraction)
    else '0' :: '.' :: (List.replicate (fraction - digits.length) '0' ++ digits)

end PyDecimal

/-- The branch of `canonical_decimal_string` for decimals. -/
def canonicalDecimalString : PyDecimal → Except CanonicalJsonError String
  | .infinity _ => .error ⟨"non-finite decimal projection"⟩
  | .notANumber => .error ⟨"non-finite decimal projection"⟩
  | .finite negative coefficient exponent =>
      if coefficient = 0 then .ok "0"
      else .ok (String.ofList ((if negative then ['-'] else []) ++
        PyDecimal.fixedDigits coefficient exponent))

/-! ## Facts -/

def refundApplicationWindowDays : Nat := 30

structure RefundChargeFacts where
  billingRecordId : String
  tenantId : String
  customerId : String
  amount : PyDecimal
  currency : String
  status : String
  chargedAt : DateTime
  servicePeriodStart : CivilDate
  servicePeriodEnd : CivilDate
  version : Int
  duplicateOf : Option String := none

structure RefundPairChecks where
  sameScope : Bool
  explicitRelation : Bool
  bothCharged : Bool
  sameAmount : Bool
  sameCurrency : Bool
  sameServicePeriod : Bool
  withinApplicationWindow : Bool
deriving DecidableEq

def RefundPairChecks.eligible (checks : RefundPairChecks) : Bool :=
  checks.sameScope && checks.explicitRelation && checks.bothCharged &&
    checks.sameAmount && checks.sameCurrency && checks.sameServicePeriod &&
    checks.withinApplicationWindow

structure RefundPairEvaluation where
  target : RefundChargeFacts
  original : Option RefundChargeFacts
  checks : RefundPairChecks
  pairHash : Option String

def RefundPairEvaluation.eligible (evaluation : RefundPairEvaluation) : Bool :=
  evaluation.checks.eligible && evaluation.pairHash.isSome

inductive RefundRaise
  | canonicalJsonError (error : CanonicalJsonError)
  | overflowError (message : String)

/-! ## Evaluation -/

/-- A naive time reads UTC; an aware one is converted, which may leave the
calendar. -/
def awareUtc (value : DateTime) : Except RefundRaise Instant :=
  match value.instant? with
  | some instant => .ok instant
  | none => .error (.overflowError "date value out of range")

def pyText (text : String) : PyValue :=
  .string (PyText.ofString text)

def pyKey (name : String) : PyKey :=
  .string (PyText.ofString name)

def refundCharge (facts : RefundChargeFacts) :
    Except RefundRaise (List (PyKey × PyValue)) := do
  let amount ← (canonicalDecimalString facts.amount).mapError .canonicalJsonError
  let chargedAt ← awareUtc facts.chargedAt
  .ok
    [(pyKey "amount", pyText amount),
      (pyKey "billing_record_id", pyText facts.billingRecordId),
      (pyKey "charged_at", pyText chargedAt.isoformat),
      (pyKey "currency", pyText facts.currency),
      (pyKey "customer_id", pyText facts.customerId),
      (pyKey "service_period_end", pyText facts.servicePeriodEnd.isoformat),
      (pyKey "service_period_start", pyText facts.servicePeriodStart.isoformat),
      (pyKey "status", pyText facts.status),
      (pyKey "tenant_id", pyText facts.tenantId),
      (pyKey "version", .integer facts.version)]

def refundPairPayload (target original : RefundChargeFacts) :
    Except RefundRaise PyValue := do
  let originalCharge ← refundCharge original
  let targetCharge ← refundCharge target
  let duplicateOf := match target.duplicateOf with
    | some id => pyText id
    | none => .none
  .ok (.dict
    [(pyKey "original", .dict originalCharge),
      (pyKey "policy_version", pyText "refund-pair.v1"),
      (pyKey "target", .dict (targetCharge ++ [(pyKey "duplicate_of", duplicateOf)])),
      (pyKey "window_days", .integer refundApplicationWindowDays)])

/-- Dates compare by year, month and day. -/
def dateBefore (left right : CivilDate) : Bool :=
  left.year < right.year || left.year = right.year &&
    (left.month < right.month || left.month = right.month && left.day < right.day)

def refundPairChecks (target : RefundChargeFacts) (original : Option RefundChargeFacts)
    (current targetChargedAt : Instant) (originalChargedAt : Option Instant) :
    RefundPairChecks where
  sameScope := original.any fun original =>
    target.tenantId = original.tenantId && target.customerId = original.customerId
  explicitRelation := original.any fun original =>
    target.billingRecordId ≠ original.billingRecordId &&
      target.duplicateOf = some original.billingRecordId
  bothCharged := original.any fun original =>
    target.status = "charged" && original.status = "charged"
  sameAmount := original.any fun original => target.amount.equal original.amount
  sameCurrency := original.any fun original => target.currency = original.currency
  sameServicePeriod := original.any fun original =>
    target.servicePeriodStart = original.servicePeriodStart &&
      target.servicePeriodEnd = original.servicePeriodEnd &&
      dateBefore target.servicePeriodStart target.servicePeriodEnd
  withinApplicationWindow := originalChargedAt.any fun originalChargedAt =>
    originalChargedAt ≤ current && targetChargedAt ≤ current &&
      current.microseconds - targetChargedAt.microseconds ≤
        refundApplicationWindowDays * microsecondsPerDay

def evaluateRefundPair (target : RefundChargeFacts) (original : Option RefundChargeFacts)
    (now : DateTime) : Except RefundRaise RefundPairEvaluation := do
  let current ← awareUtc now
  let targetChargedAt ← awareUtc target.chargedAt
  match original with
  | none =>
      .ok { target, original
            checks := refundPairChecks target none current targetChargedAt none
            pairHash := none }
  | some originalFacts =>
      let originalChargedAt ← awareUtc originalFacts.chargedAt
      let payload ← refundPairPayload target originalFacts
      let pairHash ← (canonicalJsonHash payload).mapError .canonicalJsonError
      .ok { target, original
            checks := refundPairChecks target original current targetChargedAt
              (some originalChargedAt)
            pairHash := some pairHash }

end SupportGuard
