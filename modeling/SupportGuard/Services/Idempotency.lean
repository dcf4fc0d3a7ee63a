import SupportGuard.Foundation.Timestamp
import SupportGuard.Services.ToolLedger

/-! # Idempotent requests

`IdempotencyRepository` of `services/runtime_jobs.py`, as it acts on a database that is
not PostgreSQL, and the timestamps that a stored response keeps. -/

namespace SupportGuard

open Foundation Program

/-! ## Timestamps -/

/-- `parse_canonical_utc_timestamp`. -/
def parseCanonicalUtcTimestamp (text : String) : Except RuntimeRaise Instant :=
  match readTimestamp text.toList with
  | none => .error (.valueError "canonical_timestamp_invalid")
  | some instant =>
      if instant.isoformat = text then .ok instant
      else .error (.valueError "canonical_timestamp_invalid")

theorem parseCanonicalUtcTimestamp_isoformat (instant : Instant) :
    parseCanonicalUtcTimestamp instant.isoformat = .ok instant := by
  rw [parseCanonicalUtcTimestamp, readTimestamp_isoformat]
  exact if_pos rfl

/-! ## Responses -/

/-- `str` of a stored value. -/
def SnapshotValue.str : SnapshotValue → String
  | .text value => value
  | .flag true => "True"
  | .flag false => "False"
  | .null => "None"

/-- `str(snapshot[key])`. -/
def snapshotText (snapshot : List (String × SnapshotValue)) (key : String) :
    Except RuntimeRaise String :=
  match snapshot.lookup key with
  | some value => .ok value.str
  | none => .error (.keyError key)

/-- `str(snapshot[key]) if snapshot.get(key) is not None else None`. -/
def snapshotText? (snapshot : List (String × SnapshotValue)) (key : String) :
    Option String :=
  match snapshot.lookup key with
  | some .null | none => none
  | some value => some value.str

/-- `parse_canonical_utc_timestamp(snapshot[key])`. -/
def snapshotInstant (snapshot : List (String × SnapshotValue)) (key : String) :
    Except RuntimeRaise Instant :=
  match snapshot.lookup key with
  | some (.text value) => parseCanonicalUtcTimestamp value
  | some _ => .error (.valueError "canonical_timestamp_invalid")
  | none => .error (.keyError key)

/-! ## Requests -/

def canonicalRequestHash (payload : Json) : String :=
  Sha256.hexDigest (JsonText.utf8 (JsonText.encode payload))

structure AcceptedCommand where
  record : IdempotencyRequest
  reused : Bool

/-- The request under its scope, which is kept at its first acceptance and has to be the
same request ever after. -/
def IdempotencyRepository.accept (scope : IdempotencyScope) (payload : Json)
    (resourceIds : List (String × String))
    (responseSnapshot : List (String × SnapshotValue)) :
    Program Database RuntimeRaise AcceptedCommand := do
  let database ← reads id
  match Table.find IdempotencyRequest.scope database.idempotency scope with
  | some existing =>
      refuseWhen (existing.requestHash ≠ canonicalRequestHash payload)
        (.runtimeConflict "idempotency_conflict")
      pure { record := existing, reused := true }
  | none =>
      let record : IdempotencyRequest :=
        { scope
          requestHash := canonicalRequestHash payload
          resourceIds
          responseSnapshot }
      modify fun database =>
        { database with idempotency := database.idempotency ++ [record] }
      pure { record, reused := false }

/-- Keep the response of a request. -/
def storeResponse (scope : IdempotencyScope) (resourceIds : List (String × String))
    (responseSnapshot : List (String × SnapshotValue)) : Program Database RuntimeRaise Unit :=
  modify fun database =>
    { database with
      idempotency := Table.update IdempotencyRequest.scope scope
        (fun record => { record with resourceIds, responseSnapshot }) database.idempotency }

end SupportGuard
