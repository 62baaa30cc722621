import OAuthClientBridge.OAuth.Settled

/-! What one answer of the provider is worth, and how the last one decides what `fetch` returns. -/

namespace OAuthClientBridge
open Python

def stockUnavailable : String :=
  "The server is currently unable to handle the request due to a temporary overloading or maintenance of the server."

def unavailableResult (description : Json) : Payload :=
  .ofList [("error", Json.str OAuthError.temporarilyUnavailable.value),
    ("error_description", if description.truthy then description else .str stockUnavailable)]

theorem temporarilyUnavailable_json (description : Json) :
    OAuthError.temporarilyUnavailable.json description = .ok (unavailableResult description) :=
  OAuthError.json_eq (show OAuthError.temporarilyUnavailable.description? = some stockUnavailable by decide) description

section
variable {τ : Type} (P : Platform τ) (s : FetchSettings)

/-- What `token_endpoint_outcome` says about an object. -/
def objectOutcome (status : HTTPStatus) (b : Payload) : TokenEndpointOutcome :=
  if status ∈ s.retryStatusCodes then
    ⟨true, some .temporarilyUnavailable, false, some (retryReasonForStatus status)⟩
  else if status.isSuccess then
    if validateToken b then ⟨false, none, false, none⟩
    else ⟨false, some (normalizeTokenError P s (b["error"]?.getD (.str OAuthError.invalidRequest.value))
      .invalidRequest), false, none⟩
  else
    let normalized := b["error"]?.map fun error => normalizeTokenError P s error .serverError
    ⟨false, normalized, status = .badRequest && normalized = some .invalidGrant, none⟩

theorem classify_object (status : HTTPStatus) (b : Payload) :
    classify P s (some status) (.object b) = .ok (objectOutcome P s status b) := by
  unfold classify objectOutcome
  dsimp only
  split
  · rfl
  split
  · simp only [Document.asDict_object, ok_bind]
    split <;> rfl
  · have present := @Std.ExtTreeMap.contains_eq_isSome_getElem? _ _ _ b _ "error"
    simp only [Document.has_object, ok_bind, Document.item]
    cases he : b["error"]? <;> simp only [present, he] <;> rfl

end

section
variable {τ : Type} {P : Platform τ} {s : FetchSettings} {a : Upstream} {b : Payload}
  {status : Option HTTPStatus} {n : Nat}

theorem objectOutcome_retryable (status : HTTPStatus) (b : Payload) :
    (objectOutcome P s status b).retryable = decide (status ∈ s.retryStatusCodes) := by
  unfold objectOutcome
  split
  · simp [*]
  split <;> [split; skip] <;> simp [*]

theorem issue_object (status : HTTPStatus) (b : Payload) :
    unexpectedTokenEndpointIssue s.retryStatusCodes (some status) (.object b) = .error .typeError ∧
        status ∈ s.retryStatusCodes ∧ (b.getOrNull "error").hashable = false ∨
      (∃ issue, unexpectedTokenEndpointIssue s.retryStatusCodes (some status) (.object b) = .ok issue) ∧
        ¬(status ∈ s.retryStatusCodes ∧ (b.getOrNull "error").hashable = false) := by
  unfold unexpectedTokenEndpointIssue
  by_cases retry : status ∈ s.retryStatusCodes
  · cases scalar : (b.getOrNull "error").hashable
    · simp [retry, scalar]
    · refine .inr ⟨?_, by simp⟩
      simp only [retry, scalar, Document.asDict_object, ok_bind, if_true]
      split <;> [skip; split <;> [skip; split]] <;> simp at *
  · refine .inr ⟨?_, by simp [retry]⟩
    cases hs : status.isSuccess <;> cases hv : validateToken b <;> simp [retry, hs, hv]

theorem settle_object (h : received s a = .ok (.object b, status, n)) : settle P s a =
    match status with
    | none => .ok ⟨.object (unavailableResult (b.getOrNull "error_description")), none, n, true⟩
    | some code =>
      if code ∈ s.retryStatusCodes then
        if (b.getOrNull "error").hashable then
          .ok ⟨.object (unavailableResult (b.getOrNull "error_description")), some code, n, true⟩
        else .error .typeError
      else .ok ⟨.object b, some code, n, false⟩ := by
  simp only [settle, h, ok_bind, judged]
  cases status with
  | none => simp [unexpectedTokenEndpointIssue, classify, unavailableInstead, temporarilyUnavailable_json]
  | some code =>
    rcases issue_object (s := s) code b with ⟨raises, retry, scalar⟩ | ⟨⟨issue, found⟩, fine⟩
    · simp [raises, retry, scalar]
    · simp only [found, ok_bind, classify_object]
      by_cases retry : code ∈ s.retryStatusCodes
      · have scalar : (b.getOrNull "error").hashable = true := by simpa [retry] using fine
        simp [retry, scalar, objectOutcome, unavailableInstead, temporarilyUnavailable_json]
      · simp [objectOutcome_retryable, retry]

theorem measure_hashable {error : Json} (scalar : error.hashable = true) : measure P error = .ok () := by
  simp [measure, scalar]

theorem measure_json {e : OAuthError} {description : Json} {p : Payload} (worded : e.json description = .ok p) :
    measure P (p.getOrNull "error") = .ok () := by
  unfold OAuthError.json at worded
  cases described : e.describe description with
  | error e => simp [described] at worded
  | ok text =>
    rw [described, ok_bind, except_pure, Except.ok.injEq] at worded
    subst worded
    exact measure_hashable rfl

theorem settle_other {v : NonObject} (h : received s a = .ok (.other v, status, n)) :
    ∃ e, settle P s a >>= Settled.payload P = .error e := by
  have notDict : ∀ k : Settled, k.result = .other v → k.payload P = .error .attributeError := by
    intro k other
    simp [Settled.payload, other]
  simp only [settle, h, ok_bind, judged, unexpectedTokenEndpointIssue, classify]
  cases status with
  | none => simp [unavailableInstead]
  | some code =>
    by_cases retry : code ∈ s.retryStatusCodes
    · simp [retry]
    cases success : code.isSuccess
    · cases present : (Document.other v).has "error" with
      | error e => simp [retry, success]
      | ok found => cases found <;> simp [retry, success, Document.item, notDict]
    · simp [retry, success]

end

/-! ### What an answer says -/

/-- What `session.send` raised past `_fetch`. -/
def Upstream.exception? : Upstream → Option PyError
  | .raised e _ => some e
  | _ => none

/-- The status that the service sees; of a failure, only that of a response below 400. -/
def Upstream.statusCode? : Upstream → Option Nat
  | .response r => some r.statusCode
  | .failure _ carried _ => (carried.filter UpstreamResponse.isOk).map UpstreamResponse.statusCode
  | .raised _ _ => none

def Upstream.status (a : Upstream) : Except PyError (Option HTTPStatus) :=
  match a.statusCode? with
  | none => .ok none
  | some code => (HTTPStatus.ofCode code).map some

def Upstream.retryAfter : Upstream → Except PyError Nat
  | .response r => parseRetry r.receivedAt r.retryAfter
  | .failure kind carried _ => failureRetry kind carried
  | .raised e _ => .error e

/-- The error of a body that is not JSON. -/
def undecodableCode (s : FetchSettings) (code : Nat) : OAuthError :=
  if code ∈ s.unavailableStatusCodes.map HTTPStatus.code then .temporarilyUnavailable else .serverError

def undecodableText (s : FetchSettings) (code : Nat) : String :=
  if code ∈ s.unavailableStatusCodes.map HTTPStatus.code then "Provider is unavailable."
  else "Unhandled provider error (HTTP " ++ toString code ++ ")."

def errorObject (error : OAuthError) (description : String) : Payload :=
  .ofList [("error", Json.str error.value), ("error_description", Json.str description)]

/-- The body of an answer, or the error object that stands in for it. -/
def Upstream.document (s : FetchSettings) : Upstream → Document
  | .response r =>
    match r.body with
    | .document d => d
    | .undecodable => .object (errorObject (undecodableCode s r.statusCode) (undecodableText s r.statusCode))
  | .failure kind _ _ => .object (errorObject .serverError kind.describe.1)
  | .raised _ _ => .object ∅

/-- The answer is one to retry: no usable status, or a retryable one. -/
def Upstream.retried (s : FetchSettings) (a : Upstream) : Bool :=
  a.exception?.isNone && match a.statusCode? with
  | none => true
  | some code => code ∈ s.retryStatusCodes.map HTTPStatus.code

/-- The answer gets through `fetch` without an exception. -/
structure Digestible {τ : Type} (P : Platform τ) (s : FetchSettings) (a : Upstream) : Prop where
  returned : a.exception? = none
  known : ∀ code ∈ a.statusCode?, code ∈ knownCodes
  readable : ∃ n, a.retryAfter = .ok n
  isObject : ∃ b, a.document s = .object b
  scalar : a.retried s = true → ∀ b, a.document s = .object b → (b.getOrNull "error").hashable = true
  measured : a.retried s = false → ∀ b, a.document s = .object b → measure P (b.getOrNull "error") = .ok ()

theorem errorObject_json {error : OAuthError} {description : String} (stock : error.description?.isSome)
    (h : description ≠ "") : error.json (.str description) = .ok (errorObject error description) := by
  obtain ⟨text, stock⟩ := Option.isSome_iff_exists.mp stock
  simp [OAuthError.json_eq stock, Json.truthy, h, errorObject]

theorem undecodableError_eq (s : FetchSettings) (code : Nat) : undecodableError s code =
    .ok (errorObject (undecodableCode s code) (undecodableText s code)) := by
  unfold undecodableError undecodableCode undecodableText
  split
  · exact errorObject_json (by decide) (by decide)
  · refine errorObject_json (by decide) fun empty => ?_
    have := congrArg String.length empty
    simp [String.length_append] at this

theorem received_eq (s : FetchSettings) (a : Upstream) :
    received s a = (do
      let status ← a.status
      return (a.document s, status, ← a.retryAfter)) := by
  cases a with
  | response r =>
    have body : decoded s r = .ok ((Upstream.response r).document s) := by
      unfold decoded Upstream.document
      cases hb : r.body <;> simp [hb, undecodableError_eq]
    cases code : HTTPStatus.ofCode r.statusCode <;>
      simp [received, body, Upstream.status, Upstream.statusCode?, Upstream.retryAfter, code]
  | failure kind response redirects =>
    have described : OAuthError.serverError.json (.str kind.describe.1) =
        .ok (errorObject .serverError kind.describe.1) := by
      apply errorObject_json (by decide)
      cases kind <;> decide
    have status : failureStatus response = (Upstream.failure kind response redirects).status := by
      unfold failureStatus Upstream.status Upstream.statusCode?
      cases response with
      | none => rfl
      | some r => cases h : r.isOk <;> simp [h, Option.filter]
    simp [received, described, status, Upstream.document, Upstream.retryAfter]
  | raised e redirects => rfl

theorem mem_codes {status : HTTPStatus} {codes : List HTTPStatus} :
    status.code ∈ codes.map HTTPStatus.code ↔ status ∈ codes :=
  List.mem_map_of_injective HTTPStatus.code_injective

/-! ### The last answer decides -/

section
variable {τ : Type} {P : Platform τ} {s : FetchSettings} {a : Upstream}

theorem Upstream.status_known (h : ∀ code ∈ a.statusCode?, code ∈ knownCodes) :
    ∃ status, a.status = .ok status ∧ a.statusCode? = status.map HTTPStatus.code := by
  unfold Upstream.status
  cases hc : a.statusCode? with
  | none => exact ⟨none, rfl, rfl⟩
  | some code =>
    have known := h code hc
    exact ⟨some ⟨code, known⟩, by simp [HTTPStatus.ofCode_known known], rfl⟩

theorem Upstream.retried_eq {status : Option HTTPStatus} (returned : a.exception? = none)
    (h : a.statusCode? = status.map HTTPStatus.code) :
    a.retried s = (match status with | none => true | some status => decide (status ∈ s.retryStatusCodes)) := by
  unfold Upstream.retried
  cases status <;> simp [returned, h, mem_codes]

theorem Upstream.returned_of_readable {n : Nat} (readable : a.retryAfter = .ok n) : a.exception? = none := by
  cases a with
  | raised e redirects => cases readable
  | _ => rfl

theorem judged_retryable {status : Option HTTPStatus} {result : Document} {outcome : TokenEndpointOutcome}
    (h : judged P s status result = .ok outcome) :
    outcome.retryable = status.all fun status => decide (status ∈ s.retryStatusCodes) := by
  unfold judged at h
  cases issue : unexpectedTokenEndpointIssue s.retryStatusCodes status result with
  | error e => simp [issue] at h
  | ok i =>
    simp only [issue, ok_bind] at h
    unfold classify at h
    cases status with
    | none => exact (Except.ok.inj h) ▸ rfl
    | some status =>
      simp only [Option.all_some] at h ⊢
      split at h
      · rename_i retry
        rw [← Except.ok.inj h, decide_eq_true retry]
      · rename_i final
        rw [decide_eq_false final]
        split at h
        · cases object : result.asDict with
          | error e => simp [object] at h
          | ok p =>
            simp only [object, ok_bind] at h
            split at h <;> exact (Except.ok.inj h) ▸ rfl
        · cases has : result.has "error" with
          | error e => simp [has] at h
          | ok found =>
            cases found with
            | false =>
              simp only [has, ok_bind, except_pure, Bool.false_eq_true, if_false] at h
              exact (Except.ok.inj h) ▸ rfl
            | true =>
              cases item : result.item "error" with
              | error e => simp [has, item] at h
              | ok error =>
                simp only [has, item, ok_bind, except_pure, if_true, except_map_ok] at h
                exact (Except.ok.inj h) ▸ rfl

theorem settle_ok {k : Settled} (h : settle P s a = .ok k) :
    a.status = .ok k.status ∧ a.retryAfter = .ok k.retry ∧ k.retryable = a.retried s := by
  unfold settle at h
  rw [received_eq] at h
  cases known : a.status with
  | error e => simp [known] at h
  | ok status =>
  cases readable : a.retryAfter with
  | error e => simp [known, readable] at h
  | ok n =>
  simp only [known, readable, ok_bind, except_pure] at h
  have code : a.statusCode? = status.map HTTPStatus.code := by
    unfold Upstream.status at known
    cases hc : a.statusCode? with
    | none =>
      rw [hc] at known
      exact (Except.ok.inj known) ▸ rfl
    | some code =>
      rw [hc] at known
      cases of : HTTPStatus.ofCode code with
      | error e => simp [of] at known
      | ok st =>
        simp only [of, except_map_ok] at known
        rw [← Except.ok.inj known, Option.map_some, HTTPStatus.ofCode_eq_ok.mp of]
  cases hj : judged P s status (a.document s) with
  | error e => simp [hj] at h
  | ok outcome =>
    simp only [hj, ok_bind] at h
    have retried : outcome.retryable = a.retried s := by
      rw [judged_retryable hj, Upstream.retried_eq (Upstream.returned_of_readable readable) code]
      cases status <;> rfl
    split at h
    · rename_i again
      cases instead : unavailableInstead (a.document s) outcome with
      | error e => simp [instead] at h
      | ok result =>
        simp only [instead, ok_bind] at h
        obtain rfl := Except.ok.inj h
        exact ⟨rfl, rfl, again.symm.trans retried⟩
    · rename_i last
      obtain rfl := Except.ok.inj h
      exact ⟨rfl, rfl, ((Bool.not_eq_true _).mp last).symm.trans retried⟩

/-- The object that `fetch` goes on with after an answer with object `b`. -/
def Upstream.outcome (s : FetchSettings) (a : Upstream) (b : Payload) : Payload :=
  if a.retried s then unavailableResult (b.getOrNull "error_description") else b

theorem Digestible.settle (h : Digestible P s a) : ∃ b n status, a.document s = .object b ∧ a.retryAfter = .ok n ∧
    settle P s a = .ok ⟨.object (a.outcome s b), status, n, a.retried s⟩ := by
  obtain ⟨b, object⟩ := h.isObject
  obtain ⟨n, readable⟩ := h.readable
  obtain ⟨status, known, code⟩ := Upstream.status_known h.known
  have got : received s a = .ok (.object b, status, n) := by
    simp [received_eq, known, readable, object]
  refine ⟨b, n, status, object, readable, ?_⟩
  have retried : a.retried s = _ := Upstream.retried_eq h.returned code
  rw [settle_object got]
  cases status with
  | none => simp [Upstream.outcome, retried]
  | some status =>
    by_cases retry : status ∈ s.retryStatusCodes
    · have scalar := h.scalar (by simpa [retried] using retry) b object
      simp [Upstream.outcome, retried, retry, scalar]
    · simp [Upstream.outcome, retried, retry]

theorem Digestible.outcome_measured (h : Digestible P s a) {b : Payload} (object : a.document s = .object b) :
    measure P ((a.outcome s b).getOrNull "error") = .ok () := by
  unfold Upstream.outcome
  split
  · exact measure_hashable rfl
  · rename_i final
    exact h.measured ((Bool.not_eq_true _).mp final) b object

theorem digestible_of_payload {p : Payload} (h : settle P s a >>= Settled.payload P = .ok p) : Digestible P s a := by
  have known : ∀ code ∈ a.statusCode?, code ∈ knownCodes := by
    intro code present
    by_contra unknown
    have fails : received s a = .error .valueError := by
      simp [received_eq, Upstream.status, Option.mem_def.mp present, HTTPStatus.ofCode_unknown unknown]
    simp [OAuthClientBridge.settle, fails] at h
  obtain ⟨status, statusKnown, code⟩ := Upstream.status_known known
  have readable : ∃ n, a.retryAfter = .ok n := by
    cases hr : a.retryAfter with
    | ok n => exact ⟨n, rfl⟩
    | error e =>
      have fails : received s a = .error e := by simp [received_eq, statusKnown, hr]
      simp [OAuthClientBridge.settle, fails] at h
  obtain ⟨n, readable⟩ := readable
  have got : received s a = .ok (a.document s, status, n) := by simp [received_eq, statusKnown, readable]
  have returned := Upstream.returned_of_readable readable
  have retried : a.retried s = _ := Upstream.retried_eq returned code
  refine ⟨returned, known, ⟨n, readable⟩, ?_, ?_, ?_⟩
  · cases hd : a.document s with
    | object b => exact ⟨b, rfl⟩
    | other v =>
      obtain ⟨e, fails⟩ := settle_other (P := P) (hd ▸ got)
      exact absurd (fails.symm.trans h) (by simp)
  · intro again b object
    rw [object] at got
    rw [settle_object got] at h
    rw [retried] at again
    cases status with
    | none =>
      cases a with
      | response r => simp [Upstream.statusCode?] at code
      | failure kind carried =>
        obtain rfl : _ = b := by simpa [Upstream.document] using object
        cases kind <;> decide
      | raised e redirects => cases returned
    | some status =>
      have retry : status ∈ s.retryStatusCodes := by simpa using again
      by_contra list
      simp [retry, list] at h
  · intro final b object
    rw [object] at got
    rw [settle_object got] at h
    rw [retried] at final
    cases status with
    | none => cases final
    | some status =>
      have final : status ∉ s.retryStatusCodes := by simpa using final
      cases measured : measure P (b.getOrNull "error") with
      | ok _ => rfl
      | error e => simp [final, Settled.payload, measured] at h

/-- The seconds that the provider asked to wait for. -/
def waitFloor (s : FetchSettings) (a : Upstream) : Nat :=
  match received s a with
  | .ok (_, _, retry) => retry
  | .error _ => 0

/-- The wait before a retry was refused: its draw was negative, and nothing set a floor. -/
def SleepRefused (s : FetchSettings) (l : List Seen) : Prop :=
  ∃ u, l.getLast? = some (.draw u) ∧ u < 0 ∧ ∀ a ∈ (answers l).getLast?, waitFloor s a = 0

/-- What the last answer is worth, or the error that `fetch` starts from. -/
def settleLast (P : Platform τ) (s : FetchSettings) (initial : Payload) (last : Option Upstream) :
    Except PyError Settled :=
  match last with
  | none => .ok (nothingReceived initial)
  | some a => settle P s a

theorem settle_retryable {k : Settled} (h : settle P s a = .ok k) (again : k.retryable = true) :
    Digestible P s a ∧ a.retried s = true := by
  have isObject : ∃ p, k.payload P = .ok p := by
    unfold settle at h
    cases hr : received s a with
    | error e => simp [hr] at h
    | ok got =>
      obtain ⟨result, status, retry⟩ := got
      cases hj : judged P s status result with
      | error e => simp [hr, hj] at h
      | ok outcome =>
        simp only [hr, hj, ok_bind] at h
        split at h
        · unfold unavailableInstead at h
          cases hd : result.asDict with
          | error e => simp [hd] at h
          | ok p =>
            cases hi : (outcome.normalizedError.getD .serverError).json (p.getOrNull "error_description") with
            | error e => simp [hd, hi] at h
            | ok instead =>
              simp only [hd, hi, ok_bind, except_pure, Except.ok.injEq] at h
              subst h
              exact ⟨withRetryAfter retry instead, by simp [Settled.payload, measure_json hi]⟩
        · obtain rfl := Except.ok.inj h
          cases again
  obtain ⟨p, object⟩ := isObject
  have digestible : Digestible P s a := digestible_of_payload (by rw [h]; exact object)
  obtain ⟨b, n, status, _, _, settled⟩ := digestible.settle (P := P)
  obtain rfl := Except.ok.inj (h.symm.trans settled)
  exact ⟨digestible, again⟩

theorem settle_retry {k : Settled} (h : settle P s a = .ok k) : k.retry = waitFloor s a := by
  unfold settle at h
  unfold waitFloor
  cases hr : received s a with
  | error e => simp [hr] at h
  | ok got =>
    obtain ⟨result, status, retry⟩ := got
    simp only [hr, ok_bind] at h
    cases hj : judged P s status result with
    | error e => simp [hj] at h
    | ok outcome =>
      simp only [hj, ok_bind] at h
      split at h
      · cases hu : unavailableInstead result outcome <;> simp [hu] at h
        rw [← h]
      · rw [← Except.ok.inj h]

section Runs
variable {initial : Payload} {l : List Seen} {k : Settled} {e : Except PyError Settled}

theorem Retrying.all (h : Retrying P s initial l k) :
    ∀ a ∈ answers l, ∃ k', settle P s a = .ok k' ∧ k'.retryable = true := by
  induction h with
  | start => simp
  | answer _ settled again ih =>
    intro a ha
    obtain ha | rfl : a ∈ answers _ ∨ a = _ := by simpa using ha
    · exact ih a ha
    · exact ⟨_, settled, again⟩
  | draw _ _ ih => simpa using ih

theorem Retrying.last (h : Retrying P s initial l k) :
    settleLast P s initial (answers l).getLast? = .ok k := by
  induction h with
  | start => rfl
  | answer _ settled _ _ => simpa [settleLast] using settled
  | draw _ _ ih => simpa using ih

theorem Retrying.retry_eq (h : Retrying P s initial l k) :
    k.retry = 0 ↔ ∀ a ∈ (answers l).getLast?, waitFloor s a = 0 := by
  have last := h.last
  cases ha : (answers l).getLast? with
  | none =>
    rw [ha] at last
    obtain rfl := Except.ok.inj last
    simp [nothingReceived]
  | some a =>
    rw [ha] at last
    simp [settle_retry last]

theorem Retrying.not_refused (h : Retrying P s initial l k) : ¬SleepRefused s l := by
  rintro ⟨u, last, negative, noFloor⟩
  cases h with
  | start => cases last
  | answer before settled again => simp at last
  | draw before wait =>
    obtain rfl : _ = u := by simpa using last
    refine wait ⟨negative, before.retry_eq.mpr ?_⟩
    simpa using noFloor

open Classical in
/-- A refused wait raises; otherwise the last answer decides alone. -/
theorem Ended.eq_last (h : Ended P s initial l e) :
    e = if SleepRefused s l then .error .valueError else settleLast P s initial (answers l).getLast? := by
  cases h with
  | stopped before => rw [if_neg before.not_refused, before.last]
  | final before settled last => simp [SleepRefused, settleLast, settled]
  | failed before settled => simp [SleepRefused, settleLast, settled]
  | refused before negative noFloor =>
    rw [if_pos]
    exact ⟨_, by simp, negative, by simpa using before.retry_eq.mp noFloor⟩

theorem Ended.earlier (h : Ended P s initial l e) :
    ∀ a ∈ (answers l).dropLast, ∃ k, settle P s a = .ok k ∧ k.retryable = true := by
  cases h with
  | stopped before => exact fun a ha => before.all a (List.mem_of_mem_dropLast ha)
  | final before _ _ | failed before _ => simpa using before.all
  | refused before _ _ =>
    intro a ha
    simp only [answers_append, answers_draw, answers_nil, List.append_nil] at ha
    exact before.all a (List.mem_of_mem_dropLast ha)

theorem Returned.last {p : Payload} (h : Returned P s l p) : ¬SleepRefused s l ∧
    match (answers l).getLast? with
    | none => p = unknownResult
    | some a => Digestible P s a ∧ ∃ b n, a.document s = .object b ∧ a.retryAfter = .ok n ∧
        p = withRetryAfter n (a.outcome s b) := by
  obtain ⟨k, ended, returned⟩ := h
  have eq := ended.eq_last
  split at eq
  · cases eq
  rename_i slept
  refine ⟨slept, ?_⟩
  cases ha : (answers l).getLast? with
  | none =>
    rw [ha] at eq
    obtain rfl := Except.ok.inj eq
    have measured : measure P (unknownResult.getOrNull "error") = .ok () := measure_hashable rfl
    simpa [nothingReceived, Settled.payload, measured, withRetryAfter] using returned.symm
  | some a =>
    rw [ha] at eq
    have digestible : Digestible P s a := digestible_of_payload (p := p) (by
      rw [show settle P s a = .ok k from eq.symm]; exact returned)
    obtain ⟨b, n, status, object, readable, settled⟩ := digestible.settle
    obtain rfl := Except.ok.inj (eq.trans settled)
    exact ⟨digestible, b, n, object, readable,
      by simpa [Settled.payload, digestible.outcome_measured object] using returned.symm⟩

theorem Raised.last {p : PyError} (h : Raised P s l p) :
    (SleepRefused s l ∧ ∀ a ∈ (answers l).getLast?, Digestible P s a ∧ a.retried s = true) ∨
      ¬SleepRefused s l ∧ ∃ a ∈ (answers l).getLast?, ¬Digestible P s a := by
  obtain ⟨e, ended, raises⟩ := h
  by_cases refused : SleepRefused s l
  · refine .inl ⟨refused, fun a last => ?_⟩
    cases ended with
    | stopped before => exact absurd refused before.not_refused
    | final before settled _ | failed before settled => simp [SleepRefused] at refused
    | refused before _ _ =>
      obtain ⟨k, settled, again⟩ := before.all a (List.mem_of_getLast? (by simpa using last))
      exact settle_retryable settled again
  · have eq := ended.eq_last
    rw [if_neg refused] at eq
    cases ha : (answers l).getLast? with
    | none =>
      rw [ha] at eq
      rw [eq] at raises
      have measured : measure P (unknownResult.getOrNull "error") = .ok () := measure_hashable rfl
      simp [settleLast, nothingReceived, Settled.payload, measured] at raises
    | some a =>
      refine .inr ⟨refused, a, rfl, fun digestible => ?_⟩
      obtain ⟨b, n, status, object, _, settled⟩ := digestible.settle
      rw [ha] at eq
      rw [eq, show settleLast P s unknownResult (some a) = _ from settled] at raises
      simp [Settled.payload, digestible.outcome_measured object] at raises

theorem Returned.unique {p p' : Payload} (h : Returned P s l p) (h' : Returned P s l p') : p' = p := by
  obtain ⟨_, last⟩ := h.last
  obtain ⟨_, last'⟩ := h'.last
  cases ha : (answers l).getLast? with
  | none =>
    rw [ha] at last last'
    exact last'.trans last.symm
  | some a =>
    rw [ha] at last last'
    obtain ⟨_, b, n, object, readable, rfl⟩ := last
    obtain ⟨_, b', n', object', readable', rfl⟩ := last'
    cases object.symm.trans object'
    cases readable.symm.trans readable'
    rfl

theorem Returned.not_raised {p : Payload} {e : PyError} (h : Returned P s l p) (h' : Raised P s l e) : False := by
  obtain ⟨slept, last⟩ := h.last
  rcases h'.last with ⟨refused, _⟩ | ⟨_, a, ha, indigestible⟩
  · exact slept refused
  · rw [Option.mem_def.mp ha] at last
    exact indigestible last.1

end Runs
end
end OAuthClientBridge
