import OAuthClientBridge.Python.EmailUtils

namespace OAuthClientBridge
open Python

/-- The codes that `http.HTTPStatus` has in Python 3.12. -/
def knownCodes : List Nat :=
  [100, 101, 102, 103, 200, 201, 202, 203, 204, 205, 206, 207, 208, 226, 300, 301, 302, 303, 304, 305,
   307, 308, 400, 401, 402, 403, 404, 405, 406, 407, 408, 409, 410, 411, 412, 413, 414, 415, 416, 417,
   418, 421, 422, 423, 424, 425, 426, 428, 429, 431, 451, 500, 501, 502, 503, 504, 505, 506, 507, 508,
   510, 511]

/-- A member of `http.HTTPStatus`. -/
structure HTTPStatus where
  code : Nat
  known : code ∈ knownCodes
  deriving DecidableEq

namespace HTTPStatus

/-- `HTTPStatus(code)`. -/
def ofCode (code : Nat) : Except PyError HTTPStatus :=
  if known : code ∈ knownCodes then .ok ⟨code, known⟩ else .error .valueError

def ok : HTTPStatus := ⟨200, by decide⟩
def badRequest : HTTPStatus := ⟨400, by decide⟩
def tooManyRequests : HTTPStatus := ⟨429, by decide⟩
def badGateway : HTTPStatus := ⟨502, by decide⟩
def serviceUnavailable : HTTPStatus := ⟨503, by decide⟩
def gatewayTimeout : HTTPStatus := ⟨504, by decide⟩

def isSuccess (s : HTTPStatus) : Bool := 200 ≤ s.code && s.code ≤ 299
def isRedirection (s : HTTPStatus) : Bool := 300 ≤ s.code && s.code ≤ 399
def isClientError (s : HTTPStatus) : Bool := 400 ≤ s.code && s.code ≤ 499
def isServerError (s : HTTPStatus) : Bool := 500 ≤ s.code && s.code ≤ 599

theorem ofCode_eq_ok {code : Nat} {s : HTTPStatus} : ofCode code = .ok s ↔ s.code = code := by
  unfold ofCode
  split
  · exact ⟨fun h => by rw [← Except.ok.inj h], fun h => by subst h; rfl⟩
  · rename_i unknown
    exact ⟨fun h => by simp at h, fun h => absurd (h ▸ s.known) unknown⟩

theorem code_injective : Function.Injective code := by
  rintro ⟨a, _⟩ ⟨b, _⟩ same
  simpa using same

theorem ofCode_known {code : Nat} (h : code ∈ knownCodes) : ofCode code = .ok ⟨code, h⟩ := by
  simp [ofCode, h]

theorem ofCode_unknown {code : Nat} (h : code ∉ knownCodes) : ofCode code = .error .valueError := by
  simp [ofCode, h]

@[simp] theorem ofCode_code (s : HTTPStatus) : ofCode s.code = .ok s := ofCode_eq_ok.mpr rfl

end HTTPStatus
end OAuthClientBridge
