import SupportGuard.Contracts.RefundPolicy
import SupportGuard.Database.Rows

/-! # The refund-pair snapshot in SQL

`supportguard_refund_pair_snapshot` and `supportguard_canonical_jsonb`, the
database's own evaluation of the refund-pair policy, and its agreement with the
application's. -/

namespace SupportGuard

open Foundation

/-! ## Database values as text -/

/-- `amount::text` of a `numeric(12,2)`, given in hundredths: the scale is always
written out. -/
def numericText (hundredths : Int) : String :=
  String.ofList ((if hundredths < 0 then ['-'] else []) ++
    Nat.toDigits 10 (hundredths.natAbs / 100) ++ '.' ::
    [Nat.digitChar (hundredths.natAbs / 10 % 10), Nat.digitChar (hundredths.natAbs % 10)])

/-- `date::text` in the ISO date style. -/
def dateText (date : CivilDate) : String :=
  zeroPadded 4 date.year ++ "-" ++ zeroPadded 2 date.month ++ "-" ++
    zeroPadded 2 date.day

/-- `to_char(value AT TIME ZONE 'UTC', 'YYYY-MM-DD"T"HH24:MI:SS.US') || '+00:00'`. -/
def formatUtcTimestamp (value : Instant) : String :=
  let date := value.date
  let time := value.time
  zeroPadded 4 date.year ++ "-" ++ zeroPadded 2 date.month ++ "-" ++
    zeroPadded 2 date.day ++ "T" ++ zeroPadded 2 time.hour ++ ":" ++
    zeroPadded 2 time.minute ++ ":" ++ zeroPadded 2 time.second ++ "." ++
    zeroPadded 6 time.microsecond ++ "+00:00"

/-! ## Canonical jsonb -/

/-- The text of a jsonb string: backspace, form feed, line feed, carriage return,
tab, quote and backslash have short escapes, other controls are `\u` and four
hexadecimal digits. -/
def jsonbEscape (character : Char) : List Char :=
  if character = '\x08' then ['\\', 'b']
  else if character = '\x0c' then ['\\', 'f']
  else if character = '\n' then ['\\', 'n']
  else if character = '\r' then ['\\', 'r']
  else if character = '\t' then ['\\', 't']
  else if character = '"' then ['\\', '"']
  else if character = '\\' then ['\\', '\\']
  else if character.toNat < 0x20 then
    let digits := Nat.toDigits 16 character.toNat
    '\\' :: 'u' :: (List.replicate (4 - digits.length) '0' ++ digits)
  else [character]

def jsonbString (text : String) : List Char :=
  '"' :: (text.toList.flatMap jsonbEscape ++ ['"'])

/-- `ORDER BY key COLLATE "C"`: the bytes of the keys, compared one by one. -/
def keyBytesLe (left right : String × List Char) : Prop :=
  JsonText.utf8 left.1.toList ≤ JsonText.utf8 right.1.toList

instance : DecidableRel keyBytesLe := fun left right =>
  inferInstanceAs (Decidable
    (JsonText.utf8 left.1.toList ≤ JsonText.utf8 right.1.toList))

/-- `string_agg(…, ',')`. -/
def joinComma : List (List Char) → List Char
  | [] => []
  | [text] => text
  | text :: next :: rest => text ++ ',' :: joinComma (next :: rest)

mutual
def canonicalJsonb : Json → List Char
  | .object members =>
      let rendered := (canonicalMembers members).insertionSort keyBytesLe
      '{' :: (joinComma (rendered.map fun member => jsonbString member.1 ++ ':' :: member.2)
        ++ ['}'])
  | .array items => '[' :: (joinComma (canonicalItems items) ++ [']'])
  | .string text => jsonbString text
  | .null => ['n', 'u', 'l', 'l']
  | .bool true => ['t', 'r', 'u', 'e']
  | .bool false => ['f', 'a', 'l', 's', 'e']
  | .integer value => JsonText.writeInteger value
  | .float value => value.text
  | .notANumber => ['N', 'a', 'N']
  | .infinity false => ['I', 'n', 'f', 'i', 'n', 'i', 't', 'y']
  | .infinity true => ['-', 'I', 'n', 'f', 'i', 'n', 'i', 't', 'y']

def canonicalItems : List Json → List (List Char)
  | [] => []
  | item :: rest => canonicalJsonb item :: canonicalItems rest

/-- Each member's key and the text of its value. -/
def canonicalMembers : List (String × Json) → List (String × List Char)
  | [] => []
  | (key, value) :: rest => (key, canonicalJsonb value) :: canonicalMembers rest
end

/-! ## The snapshot -/

def findBillingRecord (records : List BillingRecord) (tenantId customerId id : String) :
    Option BillingRecord :=
  records.find? fun record =>
    record.tenantId = tenantId && record.customerId = customerId && record.id = id

/-- The row the target names as the one it duplicates, in the same scope. -/
def findOriginal (records : List BillingRecord) (tenantId customerId : String)
    (target : BillingRecord) : Option BillingRecord :=
  target.duplicateOf.bind fun duplicateOf =>
    findBillingRecord records tenantId customerId duplicateOf

def snapshotOriginal (record : BillingRecord) : Json :=
  .object
    [("amount", .string (numericText record.amount)),
      ("billing_record_id", .string record.id),
      ("charged_at", .string (formatUtcTimestamp record.chargedAt)),
      ("currency", .string record.currency),
      ("customer_id", .string record.customerId),
      ("service_period_end", .string (dateText record.servicePeriodEnd)),
      ("service_period_start", .string (dateText record.servicePeriodStart)),
      ("status", .string record.status),
      ("tenant_id", .string record.tenantId),
      ("version", .integer record.version)]

def snapshotTarget (record : BillingRecord) : Json :=
  .object
    [("amount", .string (numericText record.amount)),
      ("billing_record_id", .string record.id),
      ("charged_at", .string (formatUtcTimestamp record.chargedAt)),
      ("currency", .string record.currency),
      ("customer_id", .string record.customerId),
      ("duplicate_of", Json.optionalText record.duplicateOf),
      ("service_period_end", .string (dateText record.servicePeriodEnd)),
      ("service_period_start", .string (dateText record.servicePeriodStart)),
      ("status", .string record.status),
      ("tenant_id", .string record.tenantId),
      ("version", .integer record.version)]

def snapshotPayload (target original : BillingRecord) : Json :=
  .object
    [("original", snapshotOriginal original),
      ("policy_version", .string "refund-pair.v1"),
      ("target", snapshotTarget target),
      ("window_days", .integer 30)]

def snapshotChecks (target : BillingRecord) (original : Option BillingRecord)
    (asOf : Instant) : RefundPairChecks where
  sameScope := original.any fun original =>
    target.tenantId = original.tenantId && target.customerId = original.customerId
  explicitRelation := original.any fun original =>
    target.id ≠ original.id && target.duplicateOf = some original.id
  bothCharged := original.any fun original =>
    target.status = "charged" && original.status = "charged"
  sameAmount := original.any fun original => target.amount = original.amount
  sameCurrency := original.any fun original => target.currency = original.currency
  sameServicePeriod := original.any fun original =>
    target.servicePeriodStart = original.servicePeriodStart &&
      target.servicePeriodEnd = original.servicePeriodEnd &&
      dateBefore target.servicePeriodStart target.servicePeriodEnd
  withinApplicationWindow := original.any fun original =>
    original.chargedAt ≤ asOf && target.chargedAt ≤ asOf &&
      (asOf.microseconds : Int) - target.chargedAt.microseconds ≤
        30 * microsecondsPerDay

/-- The rows of the answer are returned column by column; here they are the rows
themselves. -/
structure RefundPairSnapshot where
  target : BillingRecord
  original : Option BillingRecord
  duplicatePairEligible : Bool
  refundPairHash : Option String
  refundPairChecks : RefundPairChecks

def refundPairSnapshot (currentUser : String) (records : List BillingRecord)
    (tenantId customerId billingRecordId : String) (asOf : Instant) :
    Except String (Option RefundPairSnapshot) :=
  if currentUser ≠ "supportguard_owner" then .error "refund_pair_snapshot_forbidden"
  else match findBillingRecord records tenantId customerId billingRecordId with
    | none => .ok none
    | some target =>
        let original := findOriginal records tenantId customerId target
        let checks := snapshotChecks target original asOf
        .ok (some
          { target, original
            duplicatePairEligible := checks.eligible
            refundPairHash := original.map fun original =>
              Sha256.hexDigest (JsonText.utf8
                (canonicalJsonb (snapshotPayload target original)))
            refundPairChecks := checks })

/-! ## The two serializers

On objects whose members are listed in key order, both serializers write the
members as they are listed. -/

theorem jsonbEscape_eq : jsonbEscape = JsonText.escape := by
  funext character
  by_cases control : character.toNat < 0x20
  · have digits : ∀ value < 0x20, List.replicate (4 - (Nat.toDigits 16 value).length) '0' ++
        Nat.toDigits 16 value =
          ['0', '0', JsonText.hexDigit (value / 16), JsonText.hexDigit (value % 16)] := by
      decide
    unfold jsonbEscape JsonText.escape
    simp only [control, if_true, digits _ control]
    split_ifs <;> simp_all
  · unfold jsonbEscape JsonText.escape
    simp only [control, if_false]
    split_ifs <;> simp_all

theorem jsonbString_eq (text : String) : jsonbString text = JsonText.writeString text := by
  rw [jsonbString, jsonbEscape_eq]
  rfl

/-- Keys listed in order, both by code points and by bytes. -/
def KeysInOrder (keys : List String) : Prop :=
  keys.Pairwise fun left right =>
    left ≤ right ∧ JsonText.utf8 left.toList ≤ JsonText.utf8 right.toList

instance (keys : List String) : Decidable (KeysInOrder keys) :=
  inferInstanceAs (Decidable (keys.Pairwise _))

mutual
def KeyOrdered : Json → Prop
  | .object members => KeysInOrder (members.map Prod.fst) ∧ MembersKeyOrdered members
  | .array items => ItemsKeyOrdered items
  | _ => True

def ItemsKeyOrdered : List Json → Prop
  | [] => True
  | item :: rest => KeyOrdered item ∧ ItemsKeyOrdered rest

def MembersKeyOrdered : List (String × Json) → Prop
  | [] => True
  | (_, value) :: rest => KeyOrdered value ∧ MembersKeyOrdered rest
end

theorem writeItems_eq_joinComma (items : List Json) :
    JsonText.writeItems items = joinComma (items.map JsonText.write) := by
  induction items with
  | nil => rfl
  | cons item rest induction =>
      cases rest with
      | nil => rfl
      | cons next rest =>
          rw [JsonText.writeItems, induction]
          rfl

theorem writeMembers_eq_joinComma : ∀ members : List (String × Json),
    JsonText.writeMembers members = joinComma (members.map fun member =>
      JsonText.writeString member.1 ++ ':' :: JsonText.write member.2)
  | [] => rfl
  | [_] => rfl
  | (key, value) :: next :: rest => by
      rw [JsonText.writeMembers, writeMembers_eq_joinComma (next :: rest)]
      simp [joinComma]

mutual
theorem sortKeys_of_keyOrdered : ∀ {value : Json}, KeyOrdered value →
    value.sortKeys = value
  | .object members, ordered => by
      have sorted : (Json.sortMembers members).Pairwise Json.memberLe := by
        rw [sortMembers_of_keyOrdered ordered.2]
        exact (List.pairwise_map.mp ordered.1).imp And.left
      rw [Json.sortKeys, sorted.insertionSort_eq, sortMembers_of_keyOrdered ordered.2]
  | .array items, ordered => by rw [Json.sortKeys, sortItems_of_keyOrdered ordered]
  | .null, _ => rfl
  | .bool _, _ => rfl
  | .integer _, _ => rfl
  | .float _, _ => rfl
  | .notANumber, _ => rfl
  | .infinity _, _ => rfl
  | .string _, _ => rfl

theorem sortItems_of_keyOrdered : ∀ {items : List Json}, ItemsKeyOrdered items →
    Json.sortItems items = items
  | [], _ => rfl
  | _ :: _, ordered => by
      rw [Json.sortItems, sortKeys_of_keyOrdered ordered.1,
        sortItems_of_keyOrdered ordered.2]

theorem sortMembers_of_keyOrdered : ∀ {members : List (String × Json)},
    MembersKeyOrdered members → Json.sortMembers members = members
  | [], _ => rfl
  | (_, _) :: _, ordered => by
      rw [Json.sortMembers, sortKeys_of_keyOrdered ordered.1,
        sortMembers_of_keyOrdered ordered.2]
end

mutual
theorem canonicalJsonb_of_keyOrdered : ∀ {value : Json}, KeyOrdered value →
    canonicalJsonb value = JsonText.write value
  | .object members, ordered => by
      have rendered := canonicalMembers_of_keyOrdered ordered.2
      have sorted : (canonicalMembers members).Pairwise keyBytesLe := by
        rw [rendered, List.pairwise_map]
        exact (List.pairwise_map.mp ordered.1).imp And.right
      rw [canonicalJsonb, sorted.insertionSort_eq, rendered, List.map_map,
        JsonText.write, writeMembers_eq_joinComma]
      simp only [jsonbString_eq, Function.comp_def]
  | .array items, ordered => by
      rw [canonicalJsonb, canonicalItems_of_keyOrdered ordered, JsonText.write,
        writeItems_eq_joinComma]
  | .string text, _ => jsonbString_eq text
  | .null, _ => rfl
  | .bool true, _ => rfl
  | .bool false, _ => rfl
  | .integer _, _ => rfl
  | .float _, _ => rfl
  | .notANumber, _ => rfl
  | .infinity false, _ => rfl
  | .infinity true, _ => rfl

theorem canonicalItems_of_keyOrdered : ∀ {items : List Json}, ItemsKeyOrdered items →
    canonicalItems items = items.map JsonText.write
  | [], _ => rfl
  | _ :: _, ordered => by
      rw [canonicalItems, canonicalJsonb_of_keyOrdered ordered.1,
        canonicalItems_of_keyOrdered ordered.2, List.map_cons]

theorem canonicalMembers_of_keyOrdered : ∀ {members : List (String × Json)},
    MembersKeyOrdered members →
    canonicalMembers members = members.map fun member =>
      (member.1, JsonText.write member.2)
  | [], _ => rfl
  | (_, _) :: _, ordered => by
      rw [canonicalMembers, canonicalJsonb_of_keyOrdered ordered.1,
        canonicalMembers_of_keyOrdered ordered.2, List.map_cons]
end

theorem canonicalJsonb_eq_encode {value : Json} (ordered : KeyOrdered value) :
    canonicalJsonb value = JsonText.encode value := by
  rw [canonicalJsonb_of_keyOrdered ordered, JsonText.encode,
    sortKeys_of_keyOrdered ordered]

/-! ## Amounts -/

/-- A `numeric(12,2)` as the driver returns it: two decimal places. -/
def numericDecimal (hundredths : Int) : PyDecimal :=
  .finite (hundredths < 0) hundredths.natAbs (-2)

theorem numericDecimal_equal (left right : Int) :
    (numericDecimal left).equal (numericDecimal right) = decide (left = right) := by
  have signed (value : Int) : (if value < 0 then -1 else 1) * (value.natAbs : Int) = value := by
    split <;> omega
  simp only [numericDecimal, PyDecimal.equal, min_self, sub_self, Int.toNat_zero,
    pow_zero, mul_one, decide_eq_true_eq, signed]

/-- The last two digits of a number of at least three digits. -/
theorem toDigits_hundreds {value : Nat} (large : 100 ≤ value) :
    Nat.toDigits 10 value = Nat.toDigits 10 (value / 100) ++
      [Nat.digitChar (value / 10 % 10), Nat.digitChar (value % 10)] := by
  rw [Nat.toDigits_of_base_le (by decide) (by omega : 10 ≤ value),
    Nat.toDigits_of_base_le (by decide) (by omega : 10 ≤ value / 10),
    Nat.div_div_eq_div_mul]
  simp

theorem fixedDigits_hundredths (value : Nat) :
    PyDecimal.fixedDigits value (-2) = Nat.toDigits 10 (value / 100) ++ '.' ::
      [Nat.digitChar (value / 10 % 10), Nat.digitChar (value % 10)] := by
  by_cases large : 100 ≤ value
  · have nonempty : 0 < (Nat.toDigits 10 (value / 100)).length :=
      List.length_pos_iff.mpr Nat.toDigits_ne_nil
    have length : (Nat.toDigits 10 value).length =
        (Nat.toDigits 10 (value / 100)).length + 2 := by
      rw [toDigits_hundreds large, List.length_append]
      rfl
    simp only [PyDecimal.fixedDigits]
    rw [if_neg (by decide), if_pos (by omega), length, toDigits_hundreds large]
    simp
  · have small : ∀ value < 100, PyDecimal.fixedDigits value (-2) =
        Nat.toDigits 10 (value / 100) ++ '.' ::
          [Nat.digitChar (value / 10 % 10), Nat.digitChar (value % 10)] := by
      decide
    exact small value (by omega)

/-- Both sides write an amount alike, unless it is zero. -/
theorem canonicalDecimalString_numericDecimal {hundredths : Int}
    (nonzero : hundredths ≠ 0) :
    canonicalDecimalString (numericDecimal hundredths) = .ok (numericText hundredths) := by
  have coefficient : hundredths.natAbs ≠ 0 := by omega
  simp only [canonicalDecimalString, numericDecimal, if_neg coefficient,
    fixedDigits_hundredths, numericText, List.append_assoc, decide_eq_true_eq]

/-! ## Agreement -/

/-- The application's view of a row: the amount with its two decimal places, and
a time that denotes the stored instant, with or without an offset. -/
structure ReadsAs (facts : RefundChargeFacts) (record : BillingRecord) : Prop where
  billingRecordId : facts.billingRecordId = record.id
  tenantId : facts.tenantId = record.tenantId
  customerId : facts.customerId = record.customerId
  amount : facts.amount = numericDecimal record.amount
  currency : facts.currency = record.currency
  status : facts.status = record.status
  chargedAt : facts.chargedAt.instant? = some record.chargedAt
  servicePeriodStart : facts.servicePeriodStart = record.servicePeriodStart
  servicePeriodEnd : facts.servicePeriodEnd = record.servicePeriodEnd
  version : facts.version = record.version
  duplicateOf : facts.duplicateOf = record.duplicateOf

theorem awareUtc_eq_ok {value : DateTime} {instant : Instant}
    (denotes : value.instant? = some instant) : awareUtc value = .ok instant := by
  rw [awareUtc, denotes]

theorem window_eq (current charged : Instant) :
    (decide (charged ≤ current) &&
        decide (current.microseconds - charged.microseconds ≤
          refundApplicationWindowDays * microsecondsPerDay)) =
      (decide (charged ≤ current) &&
        decide ((current.microseconds : Int) - charged.microseconds ≤
          30 * microsecondsPerDay)) := by
  by_cases earlier : charged ≤ current
  · have bound : charged.microseconds ≤ current.microseconds := earlier
    simp only [earlier, decide_true, Bool.true_and]
    rw [decide_eq_decide, refundApplicationWindowDays, microsecondsPerDay]
    omega
  · simp [earlier]

variable {targetRecord originalRecord : BillingRecord} {target original : RefundChargeFacts}

/-- The seven checks come out alike. -/
theorem refundPairChecks_eq (asOf : Instant) (targetReads : ReadsAs target targetRecord)
    (originalReads : ReadsAs original originalRecord) :
    refundPairChecks target (some original) asOf targetRecord.chargedAt
        (some originalRecord.chargedAt) =
      snapshotChecks targetRecord (some originalRecord) asOf := by
  have window := window_eq asOf targetRecord.chargedAt
  simp only [refundPairChecks, snapshotChecks, Option.any_some, targetReads.tenantId,
    targetReads.customerId, targetReads.billingRecordId, targetReads.duplicateOf,
    targetReads.status, targetReads.currency, targetReads.servicePeriodStart,
    targetReads.servicePeriodEnd, targetReads.amount, originalReads.tenantId,
    originalReads.customerId, originalReads.billingRecordId, originalReads.status,
    originalReads.currency, originalReads.servicePeriodStart,
    originalReads.servicePeriodEnd, originalReads.amount, numericDecimal_equal,
    Bool.and_assoc, window]

/-! The payload of the application stands for the payload of the database, with
the reference listed last. -/

/-- The tree of a charge as the application lists it. -/
def chargeMembers (record : BillingRecord) (amount : String) : List (String × Json) :=
  [("amount", .string amount),
    ("billing_record_id", .string record.id),
    ("charged_at", .string record.chargedAt.isoformat),
    ("currency", .string record.currency),
    ("customer_id", .string record.customerId),
    ("service_period_end", .string record.servicePeriodEnd.isoformat),
    ("service_period_start", .string record.servicePeriodStart.isoformat),
    ("status", .string record.status),
    ("tenant_id", .string record.tenantId),
    ("version", .integer record.version)]

/-- The payload of the application as a tree. -/
def payloadTree (target original : BillingRecord) (targetAmount originalAmount : String) :
    Json :=
  .object
    [("original", .object (chargeMembers original originalAmount)),
      ("policy_version", .string "refund-pair.v1"),
      ("target", .object
        (chargeMembers target targetAmount ++
          [("duplicate_of", Json.optionalText target.duplicateOf)])),
      ("window_days", .integer 30)]

theorem denotes_text (text : String) : (pyText text).Denotes (.string text) :=
  ⟨text, rfl, rfl⟩

theorem denotes_cons {name : String} {value : PyValue} {tree : Json}
    {entries : List (PyKey × PyValue)} {members : List (String × Json)}
    (first : value.Denotes tree) (following : PyValue.EntriesDenote entries members) :
    PyValue.EntriesDenote ((pyKey name, value) :: entries) ((name, tree) :: members) :=
  ⟨name, tree, members, rfl, rfl, first, following⟩

theorem denotes_append {left right : List (PyKey × PyValue)}
    {leftMembers rightMembers : List (String × Json)}
    (first : PyValue.EntriesDenote left leftMembers)
    (second : PyValue.EntriesDenote right rightMembers) :
    PyValue.EntriesDenote (left ++ right) (leftMembers ++ rightMembers) := by
  induction left generalizing leftMembers with
  | nil =>
      cases (show leftMembers = [] from first)
      exact second
  | cons head tail induction =>
      rcases first with ⟨name, tree, rest, rfl, key, value, following⟩
      exact ⟨name, tree, rest ++ rightMembers, rfl, key, value, induction following⟩

theorem refundCharge_eq_ok {facts : RefundChargeFacts} {record : BillingRecord}
    {amount : String} (readsAs : ReadsAs facts record)
    (written : canonicalDecimalString facts.amount = .ok amount) :
    ∃ entries, refundCharge facts = .ok entries ∧
      PyValue.EntriesDenote entries (chargeMembers record amount) := by
  have chargedAt := awareUtc_eq_ok readsAs.chargedAt
  simp only [refundCharge, written, chargedAt, readsAs.billingRecordId, readsAs.currency,
    readsAs.customerId, readsAs.servicePeriodEnd, readsAs.servicePeriodStart,
    readsAs.status, readsAs.tenantId, readsAs.version]
  refine ⟨_, rfl, ?_⟩
  unfold chargeMembers
  repeat' apply denotes_cons
  all_goals first | exact denotes_text _ | rfl

theorem payloadTree_uniqueKeys (target original : BillingRecord)
    (targetAmount originalAmount : String) :
    (payloadTree target original targetAmount originalAmount).UniqueKeys := by
  have duplicateOf : (Json.optionalText target.duplicateOf).UniqueKeys := by
    cases target.duplicateOf <;> trivial
  refine ⟨?_, ⟨?_, ?_⟩, trivial, ⟨?_, ?_⟩, trivial, trivial⟩
  · show (["original", "policy_version", "target", "window_days"] : List String).Nodup
    decide
  · show (["amount", "billing_record_id", "charged_at", "currency", "customer_id",
      "service_period_end", "service_period_start", "status", "tenant_id", "version"] :
        List String).Nodup
    decide
  · simp [chargeMembers, Json.MembersUniqueKeys, Json.UniqueKeys]
  · show (["amount", "billing_record_id", "charged_at", "currency", "customer_id",
      "service_period_end", "service_period_start", "status", "tenant_id", "version",
      "duplicate_of"] : List String).Nodup
    decide
  · simp [chargeMembers, Json.MembersUniqueKeys, Json.UniqueKeys, duplicateOf]

theorem denotes_duplicateReference (duplicateOf : Option String) :
    PyValue.EntriesDenote
      [(pyKey "duplicate_of", match duplicateOf with
        | some id => pyText id
        | none => .none)]
      [("duplicate_of", Json.optionalText duplicateOf)] := by
  cases duplicateOf with
  | none => exact denotes_cons rfl rfl
  | some id => exact denotes_cons (denotes_text id) rfl

/-- The pair hash of the application is that of its payload tree. -/
theorem refundPairHash_eq {targetAmount originalAmount : String}
    (targetReads : ReadsAs target targetRecord) (originalReads : ReadsAs original originalRecord)
    (targetWritten : canonicalDecimalString target.amount = .ok targetAmount)
    (originalWritten : canonicalDecimalString original.amount = .ok originalAmount) :
    ∃ payload, refundPairPayload target original = .ok payload ∧
      canonicalJsonHash payload = .ok (Sha256.hexDigest (JsonText.utf8 (JsonText.encode
        (payloadTree targetRecord originalRecord targetAmount originalAmount)))) := by
  rcases refundCharge_eq_ok targetReads targetWritten with
    ⟨targetEntries, targetCharged, targetDenotes⟩
  rcases refundCharge_eq_ok originalReads originalWritten with
    ⟨originalEntries, originalCharged, originalDenotes⟩
  simp only [refundPairPayload, originalCharged, targetCharged, targetReads.duplicateOf]
  have reference := denotes_duplicateReference targetRecord.duplicateOf
  refine ⟨_, rfl, canonicalJsonHash_of_denotes ?_ (payloadTree_uniqueKeys _ _ _ _)⟩
  refine ⟨_, rfl, ?_⟩
  apply denotes_cons
  · exact ⟨_, rfl, originalDenotes⟩
  apply denotes_cons (denotes_text _)
  apply denotes_cons
  · exact ⟨_, rfl, denotes_append targetDenotes reference⟩
  exact denotes_cons rfl rfl

/-- The database lists its payload in key order. -/
theorem snapshotPayload_keyOrdered (target original : BillingRecord) :
    KeyOrdered (snapshotPayload target original) := by
  have duplicateOf : KeyOrdered (Json.optionalText target.duplicateOf) := by
    cases target.duplicateOf <;> trivial
  refine ⟨?_, ⟨?_, ?_⟩, trivial, ⟨?_, ?_⟩, trivial, trivial⟩
  · show KeysInOrder ["original", "policy_version", "target", "window_days"]
    decide
  · show KeysInOrder ["amount", "billing_record_id", "charged_at", "currency",
      "customer_id", "service_period_end", "service_period_start", "status",
      "tenant_id", "version"]
    decide
  · simp [MembersKeyOrdered, KeyOrdered]
  · show KeysInOrder ["amount", "billing_record_id", "charged_at", "currency",
      "customer_id", "duplicate_of", "service_period_end", "service_period_start",
      "status", "tenant_id", "version"]
    decide
  · simp [MembersKeyOrdered, KeyOrdered, duplicateOf]

theorem snapshotPayload_uniqueKeys (target original : BillingRecord) :
    (snapshotPayload target original).UniqueKeys := by
  have duplicateOf : (Json.optionalText target.duplicateOf).UniqueKeys := by
    cases target.duplicateOf <;> trivial
  refine ⟨?_, ⟨?_, ?_⟩, trivial, ⟨?_, ?_⟩, trivial, trivial⟩
  · show (["original", "policy_version", "target", "window_days"] : List String).Nodup
    decide
  · show (["amount", "billing_record_id", "charged_at", "currency", "customer_id",
      "service_period_end", "service_period_start", "status", "tenant_id", "version"] :
        List String).Nodup
    decide
  · simp [Json.MembersUniqueKeys, Json.UniqueKeys]
  · show (["amount", "billing_record_id", "charged_at", "currency", "customer_id",
      "duplicate_of", "service_period_end", "service_period_start", "status",
      "tenant_id", "version"] : List String).Nodup
    decide
  · simp [Json.MembersUniqueKeys, Json.UniqueKeys, duplicateOf]

theorem isoformat_eq_formatUtcTimestamp (instant : Instant) :
    instant.isoformat = formatUtcTimestamp instant := by
  simp only [Instant.isoformat, formatUtcTimestamp, CivilDate.isoformat,
    ClockTime.isoformat, String.append_assoc]

/-- Where the amounts are written alike, the two payloads differ in the place of
the reference only. -/
theorem payloadTree_same (target original : BillingRecord) :
    (payloadTree target original (numericText target.amount)
      (numericText original.amount)).Same (snapshotPayload target original) := by
  refine ⟨_, List.Perm.refl _, rfl, ?_, rfl, rfl, rfl, ?_, rfl, rfl, rfl⟩
  · refine ⟨_, List.Perm.refl _, ?_⟩
    rw [chargeMembers, isoformat_eq_formatUtcTimestamp]
    simp [Json.SameMembers, Json.Same, dateText, CivilDate.isoformat]
  · refine ⟨chargeMembers target (numericText target.amount) ++
      [("duplicate_of", Json.optionalText target.duplicateOf)], ?_, ?_⟩
    · rw [chargeMembers, isoformat_eq_formatUtcTimestamp]
      exact ((List.perm_append_singleton ("duplicate_of", Json.optionalText target.duplicateOf)
        _).symm.append_left [_, _, _, _, _])
    · rw [chargeMembers, isoformat_eq_formatUtcTimestamp]
      cases target.duplicateOf <;> simp [Json.optionalText, Json.SameMembers, Json.Same]

theorem snapshotHash_eq (target original : BillingRecord) :
    canonicalJsonb (snapshotPayload target original) = JsonText.encode
      (payloadTree target original (numericText target.amount)
        (numericText original.amount)) := by
  rw [canonicalJsonb_eq_encode (snapshotPayload_keyOrdered target original)]
  exact ((JsonText.encode_eq_iff_same (payloadTree_uniqueKeys _ _ _ _)
    (snapshotPayload_uniqueKeys _ _)).mpr (payloadTree_same target original)).symm

/-- The evaluation of a pair, up to the two hashes. -/
theorem evaluateRefundPair_some {targetAmount originalAmount : String} {now : DateTime}
    {asOf : Instant} (denotes : now.instant? = some asOf)
    (targetReads : ReadsAs target targetRecord) (originalReads : ReadsAs original originalRecord)
    (targetWritten : canonicalDecimalString target.amount = .ok targetAmount)
    (originalWritten : canonicalDecimalString original.amount = .ok originalAmount) :
    evaluateRefundPair target (some original) now = .ok
      { target
        original := some original
        checks := snapshotChecks targetRecord (some originalRecord) asOf
        pairHash := some (Sha256.hexDigest (JsonText.utf8 (JsonText.encode
          (payloadTree targetRecord originalRecord targetAmount originalAmount)))) } := by
  rcases refundPairHash_eq targetReads originalReads targetWritten originalWritten with
    ⟨payload, built, hashed⟩
  rw [evaluateRefundPair, awareUtc_eq_ok denotes, awareUtc_eq_ok targetReads.chargedAt]
  simp only [awareUtc_eq_ok originalReads.chargedAt, built,
    ← refundPairChecks_eq asOf targetReads originalReads]
  simp only [bind, Except.bind, hashed, Except.mapError]

theorem canonicalDecimalString_numericDecimal_isOk (hundredths : Int) :
    ∃ text, canonicalDecimalString (numericDecimal hundredths) = .ok text := by
  by_cases zero : hundredths = 0
  · exact ⟨"0", by rw [zero]; rfl⟩
  · exact ⟨_, canonicalDecimalString_numericDecimal zero⟩

/-- The application and the database evaluate a refund pair alike: the checks and
the eligibility always, the hash where no amount is zero. -/
theorem evaluateRefundPair_agrees {records : List BillingRecord}
    {tenantId customerId billingRecordId : String} {targetRecord : BillingRecord}
    {target : RefundChargeFacts} {original : Option RefundChargeFacts}
    {now : DateTime} {asOf : Instant}
    (found : findBillingRecord records tenantId customerId billingRecordId =
      some targetRecord)
    (targetReads : ReadsAs target targetRecord)
    (originalReads : Option.Rel ReadsAs original
      (findOriginal records tenantId customerId targetRecord))
    (denotes : now.instant? = some asOf) :
    ∃ evaluation snapshot,
      evaluateRefundPair target original now = .ok evaluation ∧
      refundPairSnapshot "supportguard_owner" records tenantId customerId
        billingRecordId asOf = .ok (some snapshot) ∧
      evaluation.checks = snapshot.refundPairChecks ∧
      evaluation.eligible = snapshot.duplicatePairEligible ∧
      (targetRecord.amount ≠ 0 →
        (∀ originalRecord ∈ findOriginal records tenantId customerId targetRecord,
          originalRecord.amount ≠ 0) →
        evaluation.pairHash = snapshot.refundPairHash) := by
  simp only [refundPairSnapshot, found, ne_eq, not_true_eq_false, if_false,
    Except.ok.injEq, Option.some.injEq]
  generalize findOriginal records tenantId customerId targetRecord = originalRecord
    at originalReads ⊢
  cases originalReads with
  | none =>
      rw [evaluateRefundPair, awareUtc_eq_ok denotes, awareUtc_eq_ok targetReads.chargedAt]
      refine ⟨_, _, rfl, rfl, rfl, rfl, ?_⟩
      intro _ _
      rfl
  | some originalReads =>
      rcases canonicalDecimalString_numericDecimal_isOk targetRecord.amount with
        ⟨targetAmount, targetWritten⟩
      rename_i originalFacts originalRecord
      rcases canonicalDecimalString_numericDecimal_isOk originalRecord.amount with
        ⟨originalAmount, originalWritten⟩
      refine ⟨_, _, evaluateRefundPair_some denotes targetReads originalReads
        (by rw [targetReads.amount, targetWritten])
        (by rw [originalReads.amount, originalWritten]), rfl, rfl, ?_, ?_⟩
      · simp [RefundPairEvaluation.eligible]
      · intro targetNonzero originalNonzero
        rw [canonicalDecimalString_numericDecimal targetNonzero] at targetWritten
        rw [canonicalDecimalString_numericDecimal (originalNonzero _ rfl)]
          at originalWritten
        cases targetWritten
        cases originalWritten
        simp only [Option.map_some, snapshotHash_eq]

/-! A duplicated charge of ten dollars and a pair of charges over nothing. -/

def examplePeriodStart : CivilDate := ⟨2026, 7, 1⟩

def examplePeriodEnd : CivilDate := ⟨2026, 8, 1⟩

def exampleChargedAt : Instant := ⟨63919670400000000, Instant.july2026_inRange⟩

def exampleOriginal (amount : Int) : BillingRecord where
  id := "bill-1"
  tenantId := "t"
  customerId := "c"
  amount := amount
  currency := "USD"
  status := "charged"
  chargedAt := exampleChargedAt
  servicePeriodStart := examplePeriodStart
  servicePeriodEnd := examplePeriodEnd
  duplicateOf := none
  version := 1

def exampleDuplicate (amount : Int) : BillingRecord :=
  { exampleOriginal amount with id := "bill-2", duplicateOf := some "bill-1" }

/-- The facts of a row as the driver returns them. -/
def BillingRecord.facts (record : BillingRecord) : RefundChargeFacts where
  billingRecordId := record.id
  tenantId := record.tenantId
  customerId := record.customerId
  amount := numericDecimal record.amount
  currency := record.currency
  status := record.status
  chargedAt := ⟨record.chargedAt, none⟩
  servicePeriodStart := record.servicePeriodStart
  servicePeriodEnd := record.servicePeriodEnd
  version := record.version
  duplicateOf := record.duplicateOf

theorem BillingRecord.facts_readsAs (record : BillingRecord) :
    ReadsAs record.facts record :=
  ⟨rfl, rfl, rfl, rfl, rfl, rfl, rfl, rfl, rfl, rfl, rfl⟩

def exampleRecords (amount : Int) : List BillingRecord :=
  [exampleOriginal amount, exampleDuplicate amount]

theorem findBillingRecord_example (amount : Int) :
    findBillingRecord (exampleRecords amount) "t" "c" "bill-2" =
      some (exampleDuplicate amount) := rfl

theorem findOriginal_example (amount : Int) :
    findOriginal (exampleRecords amount) "t" "c" (exampleDuplicate amount) =
      some (exampleOriginal amount) := rfl

def exampleNow : DateTime := ⟨exampleChargedAt, none⟩

theorem exampleNow_instant : exampleNow.instant? = some exampleChargedAt := rfl

theorem evaluateRefundPair_agrees_ten_dollars :
    ∃ evaluation snapshot,
      evaluateRefundPair (exampleDuplicate 1000).facts (some (exampleOriginal 1000).facts)
        exampleNow = .ok evaluation ∧
      refundPairSnapshot "supportguard_owner" (exampleRecords 1000) "t" "c" "bill-2"
        exampleChargedAt = .ok (some snapshot) ∧
      evaluation.checks = snapshot.refundPairChecks ∧
      evaluation.eligible = snapshot.duplicatePairEligible ∧
      evaluation.pairHash = snapshot.refundPairHash := by
  rcases evaluateRefundPair_agrees (findBillingRecord_example 1000)
      (exampleDuplicate 1000).facts_readsAs
      (Option.Rel.some (exampleOriginal 1000).facts_readsAs) exampleNow_instant with
    ⟨evaluation, snapshot, evaluated, answered, checks, eligible, hashes⟩
  refine ⟨evaluation, snapshot, evaluated, answered, checks, eligible, hashes (by decide) ?_⟩
  intro record found
  cases found
  decide

theorem zeroPair_hash_ne :
    Sha256.hexDigest (JsonText.utf8 (JsonText.encode
        (payloadTree (exampleDuplicate 0) (exampleOriginal 0) "0" "0"))) ≠
      Sha256.hexDigest (JsonText.utf8 (JsonText.encode
        (payloadTree (exampleDuplicate 0) (exampleOriginal 0) "0.00" "0.00"))) := by
  decide +kernel

/-- An amount of zero is `0` to the application and `0.00` to the database. -/
theorem evaluateRefundPair_zero_amount :
    ∃ evaluation snapshot,
      evaluateRefundPair (exampleDuplicate 0).facts (some (exampleOriginal 0).facts)
        exampleNow = .ok evaluation ∧
      refundPairSnapshot "supportguard_owner" (exampleRecords 0) "t" "c" "bill-2"
        exampleChargedAt = .ok (some snapshot) ∧
      findOriginal (exampleRecords 0) "t" "c" (exampleDuplicate 0) =
        some (exampleOriginal 0) ∧
      evaluation.pairHash ≠ snapshot.refundPairHash := by
  refine ⟨_, _, evaluateRefundPair_some exampleNow_instant
    (exampleDuplicate 0).facts_readsAs (exampleOriginal 0).facts_readsAs rfl rfl, rfl,
    rfl, ?_⟩
  simp only [findOriginal_example, Option.map_some, snapshotHash_eq, ne_eq,
    Option.some.injEq]
  exact zeroPair_hash_ne

end SupportGuard
