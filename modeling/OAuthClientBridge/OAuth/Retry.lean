import OAuthClientBridge.Operations

/-! `oauth/_retry.py`, and the reading of the `Retry-After` header in `oauth/_core.py`. -/

namespace OAuthClientBridge
open Python

def retryReasonForStatus (status : HTTPStatus) : RetryReason :=
  if status = .tooManyRequests then .resourceExhausted
  else if status ∈ [.badGateway, .serviceUnavailable, .gatewayTimeout] then .unavailable
  else .unknown

/-- `re.match(r"^\s*[0-9]+\s*$", value)`. -/
def isSeconds (value : List Char) : Bool :=
  let digits := strip value
  digits ≠ [] && digits.all Char.isDigit

/-- The least integer that no longer rounds to a finite float. -/
def floatOverflow : Nat := 2 ^ 1024 - 2 ^ 970

/-- `int(email.utils.mktime_tz(parsed) - time.time())`. -/
def secondsUntil (now : ℚ) (parsed : DateTuple) : Except PyError Int := do
  let time ← mktimeTz parsed
  if floatOverflow ≤ time.natAbs then .error .overflowError
  let difference := time - now
  return difference.num.tdiv difference.den

/-- The `seconds` of `parse_retry` for a non-empty value. -/
def retrySeconds (now : ℚ) (value : List Char) : Except PyError Int :=
  if isSeconds value then
    match int? value with
    | some seconds => .ok seconds
    | none => .error .valueError
  else
    match parsedateTz value with
    | none => .ok 0
    | some parsed => secondsUntil now parsed

/-- `parse_retry(value)` at wall-clock time `now`. -/
def parseRetry (now : ℚ) (value : Option String) : Except PyError Nat :=
  match value with
  | none | some "" => .ok 0
  | some value => (retrySeconds now value.toList).map Int.toNat

example : parseRetry 0 (some " 10 ") = .ok 10 := by decide +kernel
example : parseRetry 1735689600 (some "Wed, 01 Jan 2025 00:00:10 GMT") = .ok 10 := by decide +kernel
example : parseRetry 1735689600 (some "10, Wed, 01 Jan 2025 00:00:10 GMT") = .ok 0 := by decide +kernel

end OAuthClientBridge
