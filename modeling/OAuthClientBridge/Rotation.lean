import Mathlib.Algebra.Order.BigOperators.Group.List
import OAuthClientBridge.Merge
import OAuthClientBridge.OAuth.Steps
import OAuthClientBridge.Service
import OAuthClientBridge.Views.Sequential

/-!
Concurrent refreshes of one grant at a provider that rotates its refresh tokens. A request reads
the record, presents its token, and writes what it got without reading the record again.
-/

namespace OAuthClientBridge
open Python Effect Program

variable {τ : Type} {F : Fernet τ}

/-! ### The provider -/

/-- The grant at the provider: the live refresh token, and those it replaced. -/
structure RotatingProvider where
  live : String
  retired : List String
  distinct : live ∉ retired

/-- An exchange: the live token yields a token response with a new one, any other `invalid_grant`. -/
inductive Exchange (p : RotatingProvider) (data : List (String × Json)) : Upstream → RotatingProvider → Prop where
  | rotated {r : UpstreamResponse} {payload : Payload} {fresh : String}
      (presented : data.lookup "refresh_token" = some (.str p.live)) (ok : r.statusCode = 200)
      (body : r.body = .document (.object payload)) (readable : ∃ n, (Upstream.response r).retryAfter = .ok n)
      (valid : Accepted payload) (renewed : payload["refresh_token"]? = some (.str fresh))
      (unused : fresh ∉ p.live :: p.retired) : Exchange p data (.response r) ⟨fresh, p.live :: p.retired, unused⟩
  | refused {r : UpstreamResponse} {payload : Payload} (stale : data.lookup "refresh_token" ≠ some (.str p.live))
      (bad : r.statusCode = 400) (body : r.body = .document (.object payload))
      (error : payload["error"]? = some (.str "invalid_grant")) : Exchange p data (.response r) p

/-- The token table and the provider, everything else arbitrary. -/
def rotating : Environment (bridge F) (Store τ × RotatingProvider)
  | w, ⟨.send _ data _, a⟩, w' => w'.1 = w.1 ∧ Exchange w.2 data a w'.2
  | w, e, w' => Store.Step w.1 e w'.1 ∧ w'.2 = w.2

/-- A token that is sent is still the live one. -/
def SendsLive (w : Store τ × RotatingProvider) (e : Event (bridge F)) : Prop :=
  ∀ uri data timeout a, e = ⟨.send uri data timeout, a⟩ → data.lookup "refresh_token" = some (.str w.2.live)

/-- The table and the provider, as long as no token is replaced between its read and its use. -/
def undisturbed : Environment (bridge F) (Store τ × RotatingProvider) :=
  fun w e w' => rotating w e w' ∧ SendsLive w e

/-! ### Requests -/

/-- An exchange was made, and nothing was written since. -/
def Unwritten (t : Trace (bridge F)) : Prop := (t.any fun e => e.op.isSend) = true ∧ updates t = 0

section
variable {P : Platform τ} {s : Settings} {ι : Type} {c : Pool.Config (bridge F) Exc Response (Store τ × RotatingProvider) ι}

def Between (c : Pool.Config (bridge F) Exc Response (Store τ × RotatingProvider) ι) (i : ι) : Prop :=
  Unwritten (acts c i) ∧ ∀ r, (c.thread i).rest ≠ ofExcept r

/-- The row of the client holds the token. -/
def HoldsToken (cred : ClientCredentials P.fernet) (row : Row τ) (token : String) : Prop :=
  ∃ stored : Payload, Opens cred row (.object stored) ∧ stored["refresh_token"]? = some (.str token)

/-- The record of the client holds the live token. -/
def Current (cred : ClientCredentials P.fernet) (w : Store τ × RotatingProvider) : Prop :=
  ∃ row, w.1 cred.clientId = some row ∧ HoldsToken cred row w.2.live

/-- At most one request has an exchange to write, and while it has, nobody read the new token. -/
structure Serial (s : Settings) (cred : ClientCredentials P.fernet) (holder : Option ι) (w : Store τ × RotatingProvider)
    (ts : ι → Trace (bridge P.fernet)) : Prop where
  holds : ∀ i, Unwritten (ts i) ↔ holder = some i
  stored : ∃ row token, w.1 cred.clientId = some row ∧ HoldsToken cred row token ∧
    if holder.isSome then token ∈ w.2.retired else token = w.2.live
  read : ∀ i row t, ts i = ⟨.select cred.clientId, some row⟩ :: t → ∃ token, HoldsToken cred row token ∧
    token ∈ if holder.isSome then w.2.retired else w.2.live :: w.2.retired
  renewed : ∀ i, holder = some i → ∃ payload, Renewed s.fetch (seen (ts i)) payload ∧
    payload["refresh_token"]? = some (.str w.2.live)

/-! ### What one operation does -/

variable {cred : ClientCredentials P.fernet} {req : TokenRequest} {t : Trace (bridge P.fernet)}
  {holder : Option ι} {w w' : Store τ × RotatingProvider} {ts : ι → Trace (bridge P.fernet)}

theorem unwritten_append {e : Event (bridge F)} {t : Trace (bridge F)} (update : e.op.isUpdate = false)
    (send : e.op.isSend = false) : Unwritten (t ++ [e]) ↔ Unwritten t := by
  simp [Unwritten, updates, List.any_append, send, update]

theorem Granted.updates {stored : Payload} (granted : Granted P s req cred stored t) : updates t = 0 := by
  obtain ⟨row, tf, _, _, _, asked, rfl⟩ := granted
  exact (congrArg (· + 0) (updates_fetch asked)).trans rfl

theorem answers_unsent {t : Trace (bridge F)} (unsent : (t.any fun e => e.op.isSend) = false) : answers (seen t) = [] := by
  induction t with
  | nil => rfl
  | cons e t ih =>
    rw [List.any_cons, Bool.or_eq_false_iff] at unsent
    obtain ⟨o, answer⟩ := e
    cases o with
    | send _ _ _ => cases unsent.1
    | uniform _ _ => exact ih unsent.2
    | _ => exact ih unsent.2

theorem Granted.acts {stored refreshed : Payload} (granted : Granted P s req cred stored t)
    (returned : Returned P s.fetch (seen t) refreshed) (sane : ¬InvalidGrant P s.fetch (.str OAuthError.serverError.value))
    (acts : Accepted refreshed ∨ refreshed.contains "error" = true ∧
      (secondOutcome P s refreshed).invalidateRefreshToken = true) : Unwritten t := by
  by_contra idle
  have unsent : (t.any fun e => e.op.isSend) = false := by
    rw [← Bool.not_eq_true]
    exact fun sent => idle ⟨sent, granted.updates⟩
  have last := returned.last.2
  rw [answers_unsent unsent] at last
  obtain rfl : refreshed = unknownResult := last
  rcases acts with accepted | ⟨failed, invalid⟩
  · cases accepted.1
  · obtain ⟨_, error, present, grant⟩ := (secondOutcome_invalidates failed).mp invalid
    obtain rfl : Json.str OAuthError.serverError.value = error := Option.some_inj.mp present
    exact sane grant

theorem Renewed.congr {l l' : List Seen} {payload : Payload} (h : Renewed s.fetch l payload)
    (same : answers l' = answers l) : Renewed s.fetch l' payload :=
  ⟨same ▸ h.last, h.accepted, h.refreshToken⟩

variable [DecidableEq ι] {i : ι}

theorem Serial.quiet (serial : Serial s cred holder w ts) {e : Event (bridge P.fernet)} (update : e.op.isUpdate = false)
    (send : e.op.isSend = false) (select : ∀ id row, e ≠ ⟨.select id, row⟩) :
    Serial s cred holder w (Function.update ts i (ts i ++ [e])) where
  holds j := by
    by_cases same : j = i
    · subst same
      rw [Function.update_self, unwritten_append update send]
      exact serial.holds j
    · rw [Function.update_of_ne same]
      exact serial.holds j
  stored := serial.stored
  read j row t first := by
    by_cases same : j = i
    · subst same
      rw [Function.update_self] at first
      cases before : ts j with
      | nil =>
        rw [before] at first
        exact absurd (List.cons.inj first).1 (select _ _)
      | cons e' t' =>
        rw [before] at first
        obtain ⟨rfl, _⟩ := List.cons.inj first
        exact serial.read j row t' before
    · rw [Function.update_of_ne same] at first
      exact serial.read j row t first
  renewed j holds := by
    obtain ⟨payload, renewed, live⟩ := serial.renewed j holds
    refine ⟨payload, ?_, live⟩
    by_cases same : j = i
    · subst same
      rw [Function.update_self]
      apply renewed.congr
      rw [seen_append, answers_append, answers_unsent (t := [e]) (by simpa using send), List.append_nil]
    · rwa [Function.update_of_ne same]

theorem Serial.select (serial : Serial s cred holder w ts) (first : ts i = []) :
    Serial s cred holder w (Function.update ts i [⟨.select cred.clientId, w.1 cred.clientId⟩]) where
  holds j := by
    by_cases same : j = i
    · subst same
      have idle := serial.holds j
      rw [first] at idle
      rw [Function.update_self]
      exact idle
    · rw [Function.update_of_ne same]
      exact serial.holds j
  stored := serial.stored
  read j row t split := by
    by_cases same : j = i
    · subst same
      rw [Function.update_self] at split
      obtain ⟨row', token, found, held, place⟩ := serial.stored
      obtain rfl : row' = row := by simpa [found] using (List.cons.inj split).1
      refine ⟨token, held, ?_⟩
      cases holder with
      | none => exact List.mem_cons.mpr (.inl place)
      | some _ => exact place
    · rw [Function.update_of_ne same] at split
      exact serial.read j row t split
  renewed j holds := by
    by_cases same : j = i
    · subst same
      have open' := (serial.holds j).mpr holds
      rw [first] at open'
      cases open'.1
    · rw [Function.update_of_ne same]
      exact serial.renewed j holds

theorem Serial.send (serial : Serial s cred holder w ts) (final : HTTPStatus.ok ∉ s.fetch.retryStatusCodes)
    {stored : Payload} (granted : Granted P s req cred stored (ts i)) {uri : String} {timeout : ℚ} {a : Upstream}
    (now : undisturbed (F := P.fernet) w ⟨.send uri (refreshExchange s (stored.getOrNull "refresh_token")) timeout, a⟩ w') :
    Serial s cred (some i) w' (Function.update ts i (ts i ++
      [⟨.send uri (refreshExchange s (stored.getOrNull "refresh_token")) timeout, a⟩])) := by
  obtain ⟨σ', p'⟩ := w'
  obtain ⟨⟨table, exchange⟩, live⟩ := now
  have asked : (refreshExchange s (stored.getOrNull "refresh_token")).lookup "refresh_token" =
      some (stored.getOrNull "refresh_token") := rfl
  have presented : stored.getOrNull "refresh_token" = .str w.2.live :=
    Option.some_inj.mp (asked.symm.trans (live _ _ _ _ rfl))
  obtain ⟨row, tf, _, opens, _, _, split⟩ := id granted
  -- While some request has an exchange to write, what the others read is retired and not live.
  obtain rfl : holder = none := by
    obtain ⟨token, ⟨stored', opens', held⟩, place⟩ := serial.read i row tf split
    cases opens.unique opens'
    rw [Payload.getOrNull, held, Option.getD_some] at presented
    obtain rfl := Json.str.inj presented
    cases holder with
    | none => rfl
    | some _ => exact absurd place w.2.distinct
  cases exchange with
  | refused stale => exact absurd (asked.trans (congrArg some presented)) stale
  | @rotated r payload fresh _ ok body readable valid renewed unused =>
    constructor
    · intro j
      by_cases same : j = i
      · subst same
        rw [Function.update_self]
        refine ⟨fun _ => rfl, fun _ => ⟨?_, ?_⟩⟩
        · simp [List.any_append, Op.isSend]
        · rw [updates, List.countP_append]
          exact congrArg (· + 0) granted.updates
      · rw [Function.update_of_ne same, serial.holds j]
        exact ⟨by rintro ⟨⟩, fun holds => absurd (Option.some_inj.mp holds).symm same⟩
    · obtain ⟨row', token, found, heldNow, rfl⟩ := serial.stored
      exact ⟨row', w.2.live, table ▸ found, heldNow, List.mem_cons_self⟩
    · intro j row' t first
      by_cases same : j = i
      · subst same
        rw [Function.update_self, split] at first
        obtain rfl : row = row' := by simpa using (List.cons.inj first).1
        exact serial.read j row tf split
      · rw [Function.update_of_ne same] at first
        exact serial.read j row' t first
    · intro j holds
      obtain rfl := Option.some_inj.mp holds
      refine ⟨payload, ⟨⟨r, .ok, ?_, ⟨ok, final, body⟩, readable⟩, valid, ?_⟩, renewed⟩
      · rw [Function.update_self, seen_append, answers_append]
        exact List.getLast?_concat
      · intro v present
        have new : Json.str fresh = v := Option.some_inj.mp (renewed.symm.trans present)
        exact new ▸ rfl

theorem Serial.update (serial : Serial s cred holder w ts) (sane : ¬InvalidGrant P s.fetch (.str OAuthError.serverError.value))
    {stored refreshed : Payload} {nonce : Nonce} {stamp : Int} {n : Nat} (before : ts i = t ++ [⟨.nonce, nonce⟩])
    (granted : Granted P s req cred stored t) (returned : Returned P s.fetch (seen t) refreshed) (accepted : Accepted refreshed)
    (now : undisturbed (F := P.fernet) w ⟨.update cred.clientId
      (some (P.fernet.encrypt cred.clientSecret.key nonce (modifiedToken stored refreshed))) stamp, n⟩ w') :
    Serial s cred none w' (Function.update ts i (ts i ++ [⟨.update cred.clientId
      (some (P.fernet.encrypt cred.clientSecret.key nonce (modifiedToken stored refreshed))) stamp, n⟩])) := by
  obtain ⟨σ', p'⟩ := w'
  obtain ⟨⟨step, rfl⟩, _⟩ := now
  have unwritten : Unwritten (ts i) := by
    rw [before, unwritten_append rfl rfl]
    exact granted.acts returned sane (.inl accepted)
  have holds := (serial.holds i).mp unwritten
  subst holds
  obtain ⟨payload, renewed, live⟩ := serial.renewed i rfl
  have same : answers (seen t) = answers (seen (ts i)) := by
    rw [before, seen_append, answers_append]
    exact (List.append_nil _).symm
  have renewed := renewed.congr same
  obtain rfl := renewed.returned returned
  obtain ⟨row, token, found, held, place⟩ := serial.stored
  have wrote := Store.step_update step found
  constructor
  · intro j
    by_cases same : j = i
    · subst same
      rw [Function.update_self]
      refine iff_of_false (fun still => ?_) nofun
      have none := still.2
      simp [updates, List.countP_append, Op.isUpdate] at none
    · rw [Function.update_of_ne same, serial.holds j]
      exact ⟨fun holds => absurd (Option.some_inj.mp holds).symm same, nofun⟩
  · refine ⟨_, w.2.live, ?_, ⟨_, opens_written row nonce (some stamp) (modifiedToken stored refreshed), ?_⟩, rfl⟩
    · rw [wrote]
      exact Store.write_self _ _ _
    · rw [modifiedToken_getElem?, keptStored, if_pos rfl, live]
      rfl
  · intro j row' t' first
    -- What was read so far is retired by now; the record itself holds the live token again.
    have older : ∀ {token}, token ∈ w.2.retired → token ∈ w.2.live :: w.2.retired := List.mem_cons_of_mem _
    by_cases same : j = i
    · subst same
      rw [Function.update_self, before] at first
      obtain ⟨row₀, tf, _, opens, _, _, split⟩ := id granted
      rw [split] at first before
      obtain rfl : row₀ = row' := by simpa using (List.cons.inj first).1
      obtain ⟨token, held, old⟩ := serial.read j row₀ _ before
      exact ⟨token, held, older old⟩
    · rw [Function.update_of_ne same] at first
      obtain ⟨token, held, old⟩ := serial.read j row' t' first
      exact ⟨token, held, older old⟩
  · exact fun _ holds => nomatch holds

/-- Every operation of a request, while each token that is sent is live. -/
theorem Serial.step (serial : Serial s cred holder w ts) (final : HTTPStatus.ok ∉ s.fetch.retryStatusCodes)
    (sane : ¬InvalidGrant P s.fetch (.str OAuthError.serverError.value)) (presents : Presents P req cred) {o : Op τ}
    {answer : Answer P.fernet o} (allowed : TokenOp P s req (ts i) o)
    (now : undisturbed (F := P.fernet) w ⟨o, answer⟩ w') :
    ∃ holder', Serial s cred holder' w' (Function.update ts i (ts i ++ [⟨o, answer⟩])) := by
  have quiet : o.isUpdate = false → o.isSend = false → (∀ id, o ≠ .select id) → w'.1 = w.1 ∧ w'.2 = w.2 →
      Serial s cred holder w' (Function.update ts i (ts i ++ [⟨o, answer⟩])) := by
    rintro update send select ⟨table, provider⟩
    obtain rfl : w' = w := Prod.ext table provider
    exact serial.quiet update send fun id row same => select id (congrArg Event.op same)
  obtain ⟨t, before⟩ : ∃ t, ts i = t := ⟨_, rfl⟩
  rw [before] at allowed
  cases allowed with
  | select presents' =>
    obtain rfl := presents.unique presents'
    obtain ⟨⟨⟨rfl, table⟩, provider⟩, _⟩ := now
    obtain rfl : w' = w := Prod.ext table provider
    have selected := serial.select before
    rw [before]
    exact ⟨holder, selected⟩
  | send timeout granted _ =>
    obtain ⟨row, tf, presents', rest⟩ := id granted
    obtain rfl := presents.unique presents'
    rw [← before] at granted
    exact ⟨some i, serial.send final granted now⟩
  | draw low high granted => exact ⟨holder, quiet rfl rfl nofun now.1⟩
  | revoke stamp granted returned failed invalid =>
    obtain ⟨row, tf, presents', rest⟩ := id granted
    obtain rfl := presents.unique presents'
    -- The provider answers the live token with a token, so this request has nothing to revoke.
    have unwritten := granted.acts returned sane (.inr ⟨failed, invalid⟩)
    rw [← before] at unwritten returned
    obtain ⟨payload, renewed, _⟩ := serial.renewed i ((serial.holds i).mp unwritten)
    obtain rfl := renewed.returned returned
    simp [renewed.accepted.1] at failed
  | nonce granted returned accepted => exact ⟨holder, quiet rfl rfl nofun now.1⟩
  | update nonce stamp granted returned accepted changed =>
    obtain ⟨row, tf, presents', rest⟩ := id granted
    obtain rfl := presents.unique presents'
    exact ⟨none, serial.update sane before granted returned accepted now⟩

/-! ### Runs -/

theorem rotating_silent {e : Event (bridge F)} (silent : e.op.silent = true) (now : rotating w e w') : w' = w := by
  obtain ⟨o, answer⟩ := e
  cases o with
  | send _ _ _ => cases silent
  | _ => exact Prod.ext (Store.step_silent silent now.1) now.2

variable {requests : ι → TokenRequest} {d : Pool.Config (bridge P.fernet) Exc Response (Store τ × RotatingProvider) ι}

theorem serial_reachable (presents : ∀ i, Presents P (requests i) cred) (final : HTTPStatus.ok ∉ s.fetch.retryStatusCodes)
    (sane : ¬InvalidGrant P s.fetch (.str OAuthError.serverError.value)) (current : Current cred w)
    (h : Pool.Reachable undisturbed (service P s w fun i => .token (requests i)) d) :
    ∃ holder, Serial s cred holder d.world fun i => acts d i := by
  refine Pool.invariant (I := fun w ts => ∃ holder, Serial s cred holder w ts)
    (fun i => respond_ensures P s (.token (requests i))) ⟨none, ?_⟩ ?_ ?_ h
  · obtain ⟨row, found, held⟩ := current
    refine ⟨fun i => iff_of_false (fun exchanged => nomatch exchanged.1) nofun, ⟨row, w.2.live, found, held, rfl⟩,
      nofun, nofun⟩
  · rintro w ts e w' silent serial ⟨now, _⟩
    rwa [rotating_silent silent now]
  · rintro w ts i o answer w' _ _ ⟨holder, serial⟩ allowed now
    exact serial.step final sane (presents i) allowed now

theorem TokenRun.writes {payload : Payload} {r : Except Exc Response} (run : TokenRun P s req t r) (presents : Presents P req cred)
    (unwritten : Unwritten t) (renewed : Renewed s.fetch (seen t) payload) :
    ∃ stored, Granted P s req cred stored t ∧ tokenChanged stored payload = false := by
  cases run with
  | unauthenticated | missing | revoked | wrongSecret | stored | malformed => cases unwritten.1
  | raised granted raises => exact absurd (raises.asked renewed.asked) renewed.not_raised
  | @refreshed c stored refreshed tf t' _ granted returned ends _ =>
    obtain ⟨row, tf', presents', rest⟩ := id granted
    obtain rfl := presents.unique presents'
    rw [seen_append, ends.seen, List.append_nil] at renewed
    obtain rfl := renewed.returned returned
    cases ends with
    | revoked _ _ failed | failed failed => exact absurd failed (by simp [renewed.accepted.1])
    | invalid _ invalid => exact absurd renewed.accepted.2 (by simp [invalid])
    | unchanged _ same => exact ⟨stored, by simpa using granted, same⟩
    | updated =>
      have written := unwritten.2
      simp [updates, List.countP_append, Op.isUpdate] at written

theorem Serial.written {i : ι} (serial : Serial s cred (some i) d.world fun i => acts d i)
    (presents : Presents P (requests i) cred)
    (h : Pool.Reachable undisturbed (service P s w fun i => .token (requests i)) d) {r : Except Exc Response} :
    (d.thread i).rest ≠ ofExcept r := by
  intro finished
  have unwritten : Unwritten (acts d i) := (serial.holds i).mpr rfl
  obtain ⟨payload, renewed, live⟩ := serial.renewed i rfl
  obtain ⟨r₀, run, _⟩ := (serve_ensures s (token_ensures P s (requests i))).runs (Pool.runs h finished)
  obtain ⟨stored, granted, same⟩ := run.writes presents unwritten renewed
  obtain ⟨row, tf, _, opens, _, _, split⟩ := granted
  obtain ⟨token, ⟨stored', opens', held⟩, old⟩ := serial.read i row tf split
  cases opens.unique opens'
  refine absurd same (Bool.not_eq_false _ ▸ (tokenChanged_iff ⟨_, held, rfl⟩).mpr fun kept => ?_)
  have new : (modifiedToken stored payload)["refresh_token"]? = some (.str d.world.2.live) := by
    rw [modifiedToken_getElem?, keptStored, if_pos rfl, live]
    rfl
  rw [kept, held] at new
  obtain rfl := Json.str.inj (Option.some_inj.mp new)
  exact d.world.2.distinct old

/-- At a provider that rotates its tokens the record stays current, as long as each token that is sent is live. -/
theorem rotation_kept (presents : ∀ i, Presents P (requests i) cred) (final : HTTPStatus.ok ∉ s.fetch.retryStatusCodes)
    (sane : ¬InvalidGrant P s.fetch (.str OAuthError.serverError.value)) (current : Current cred w)
    (h : Pool.Reachable undisturbed (service P s w fun i => .token (requests i)) d) (idle : ∀ i, ¬Between d i) :
    Current cred d.world := by
  obtain ⟨holder, serial⟩ := serial_reachable presents final sane current h
  obtain ⟨row, token, found, held, place⟩ := serial.stored
  cases holder with
  | none =>
    obtain rfl : token = d.world.2.live := place
    exact ⟨row, found, held⟩
  | some i =>
    have open' : Unwritten (acts d i) := (serial.holds i).mpr rfl
    exact absurd ⟨open', fun r => serial.written (presents i) h⟩ (idle i)

end

namespace Sample

def longer (tokens : List String) : String := String.ofList (List.replicate ((tokens.map String.length).sum + 1) 'x')

theorem longer_fresh (tokens : List String) : longer tokens ∉ tokens := by
  intro met
  have bound := List.single_le_sum (fun _ _ => Nat.zero_le _) _ (List.mem_map_of_mem (f := String.length) met)
  simp [longer] at bound

def exchanged (p : RotatingProvider) (data : List (String × Json)) : Upstream × RotatingProvider :=
  match data.lookup "refresh_token" with
  | some (.str token) =>
    if token = p.live then
      (response 200 (accessToken.insert "refresh_token" (.str (longer (p.live :: p.retired)))),
        ⟨longer (p.live :: p.retired), p.live :: p.retired, longer_fresh _⟩)
    else (response 400 (.ofList [("error", Json.str "invalid_grant")]), p)
  | _ => (response 400 (.ofList [("error", Json.str "invalid_grant")]), p)

theorem exchanged_exchange (p : RotatingProvider) (data : List (String × Json)) :
    Exchange p data (exchanged p data).1 (exchanged p data).2 := by
  have refused : ∀ {sent}, data.lookup "refresh_token" = sent → sent ≠ some (.str p.live) →
      Exchange p data (response 400 (.ofList [("error", Json.str "invalid_grant")])) p :=
    fun sent stale => .refused (sent ▸ stale) rfl rfl rfl
  unfold exchanged
  split
  · rename_i token sent
    split
    · rename_i live
      subst live
      exact .rotated sent rfl rfl ⟨0, rfl⟩ ⟨rfl, rfl⟩ Std.ExtTreeMap.getElem?_insert_self _
    · rename_i stale
      exact refused sent (by simpa using stale)
  · rename_i other
    exact refused rfl (other _)

def rotatingAnswer : Machine (bridge platform.fernet) (World platform.fernet × RotatingProvider)
  | .send _ data _, w => ((exchanged w.2 data).1, w.1, (exchanged w.2 data).2)
  | o, w => ((World.answer o w.1).1, (World.answer o w.1).2, w.2)

theorem rotatingAnswer_allowed (o : Op Sealed) (w : World platform.fernet × RotatingProvider) :
    rotating (w.1.store, w.2) ⟨o, (rotatingAnswer o w).1⟩ ((rotatingAnswer o w).2.1.store, (rotatingAnswer o w).2.2) := by
  cases o with
  | send _ data _ => exact ⟨rfl, exchanged_exchange w.2 data⟩
  | _ => exact ⟨World.answer_store _ w.1, rfl⟩

def twice : Pool.Config (bridge platform.fernet) Exc Response (Store Sealed × RotatingProvider) Bool :=
  service platform settings (store grant, ⟨"first", [], List.not_mem_nil⟩) fun _ => .token request

theorem twice_current : Current credentials twice.world :=
  ⟨row grant, rfl, grant, (refreshable rfl).opens, rfl⟩

/-- What the requests run on; no answer is taken from its stream. -/
def rotatingWorld : World platform.fernet × RotatingProvider := (world grant fun _ => response 500 {}, twice.world.2)

def rotatingState (w : World platform.fernet × RotatingProvider) : Store Sealed × RotatingProvider := (w.1.store, w.2)

def sendsLive (w : World platform.fernet × RotatingProvider) : Op Sealed → Bool
  | .send _ data _ => (data.lookup "refresh_token").any fun
    | .str token => token = w.2.live
    | _ => false
  | _ => true

theorem sendsLive_undisturbed (o : Op Sealed) (w : World platform.fernet × RotatingProvider) (sends : sendsLive w o = true) :
    undisturbed (rotatingState w) ⟨o, (rotatingAnswer o w).1⟩ (rotatingState (rotatingAnswer o w).2) := by
  refine ⟨rotatingAnswer_allowed o w, ?_⟩
  rintro uri data timeout a ⟨⟩
  obtain ⟨v, found, live⟩ := (Option.any_eq_true _ _).mp sends
  cases v with
  | str token =>
    obtain rfl : token = w.2.live := of_decide_eq_true live
    exact found
  | _ => cases live

def alone (w : World platform.fernet × RotatingProvider) :
    Outcome (bridge platform.fernet) Exc Response (World platform.fernet × RotatingProvider) :=
  (respond platform settings (.token request)).eval rotatingAnswer w

theorem sane : ¬InvalidGrant platform settings.fetch (.str OAuthError.serverError.value) := by
  unfold InvalidGrant
  decide +kernel

theorem alone_runs (w : World platform.fernet × RotatingProvider) :
    Runs (respond platform settings (.token request)) (alone w).trace (alone w).result := eval_runs _ _ _

theorem alone_follows (w : World platform.fernet × RotatingProvider)
    (passed : (respond platform settings (.token request)).passes rotatingAnswer sendsLive w = true) :
    Follows undisturbed (rotatingState w) (alone w).trace (rotatingState (alone w).world) :=
  passes_follows rotatingState sendsLive_undisturbed passed

def once : Pool.Config (bridge platform.fernet) Exc Response (Store Sealed × RotatingProvider) Bool :=
  twice.advance false (rotatingState (alone rotatingWorld).world) (alone rotatingWorld).trace (ofExcept (alone rotatingWorld).result)

def apart : Pool.Config (bridge platform.fernet) Exc Response (Store Sealed × RotatingProvider) Bool :=
  let second := alone (alone rotatingWorld).world
  once.advance true (rotatingState second.world) second.trace (ofExcept second.result)

theorem once_reachable : Pool.Reachable undisturbed twice once :=
  Pool.reachable_run (alone_runs rotatingWorld) (alone_follows rotatingWorld (by decide +kernel))

theorem apart_reachable : Pool.Reachable undisturbed twice apart :=
  once_reachable.trans (Pool.reachable_run (alone_runs (alone rotatingWorld).world)
    (alone_follows (alone rotatingWorld).world (by decide +kernel)))

theorem apart_idle (i : Bool) : ¬Between apart i := by
  rintro ⟨_, rest⟩
  cases i with
  | false => exact rest _ rfl
  | true => exact rest _ rfl

end Sample

theorem rotation_kept_apart : Current Sample.credentials Sample.apart.world :=
  rotation_kept (fun _ => Sample.presents) (by decide) Sample.sane Sample.twice_current Sample.apart_reachable
    Sample.apart_idle

namespace Sample

def underway (w : World platform.fernet × RotatingProvider) :
    Trace (bridge platform.fernet) × Action platform.fernet Response × World platform.fernet × RotatingProvider :=
  (respond platform settings (.token request)).advance rotatingAnswer Op.isUpdate w

theorem underway_reaches (w : World platform.fernet × RotatingProvider) :
    Reaches (respond platform settings (.token request)) (underway w).1 (underway w).2.1 := advance_reaches _ _ _ _

theorem underway_follows (w : World platform.fernet × RotatingProvider) :
    Follows rotating (rotatingState w) (underway w).1 (rotatingState (underway w).2.2) :=
  advance_follows rotatingState rotatingAnswer_allowed Op.isUpdate (respond platform settings (.token request)) w

def ended (p : Action platform.fernet Response) (w : World platform.fernet × RotatingProvider) :
    Outcome (bridge platform.fernet) Exc Response (World platform.fernet × RotatingProvider) := p.eval rotatingAnswer w

theorem ended_runs (p : Action platform.fernet Response) (w : World platform.fernet × RotatingProvider) :
    Runs p (ended p w).trace (ended p w).result := eval_runs _ _ _

theorem ended_follows (p : Action platform.fernet Response) (w : World platform.fernet × RotatingProvider) :
    Follows rotating (rotatingState w) (ended p w).trace (rotatingState (ended p w).world) :=
  eval_follows rotatingState rotatingAnswer_allowed p w

/-- Both requests have exchanged the token that they read, and the second one was refused. -/
def overlapping : Pool.Config (bridge platform.fernet) Exc Response (Store Sealed × RotatingProvider) Bool :=
  let first := underway rotatingWorld
  let second := underway first.2.2
  (twice.advance false (rotatingState first.2.2) first.1 first.2.1).advance true (rotatingState second.2.2) second.1 second.2.1

def overlappingWorld : World platform.fernet × RotatingProvider := (underway (underway rotatingWorld).2.2).2.2

theorem overlapping_reachable : Pool.Reachable rotating twice overlapping :=
  (Pool.reachable_run (underway_reaches rotatingWorld) (underway_follows rotatingWorld)).trans
    (Pool.reachable_run (underway_reaches (underway rotatingWorld).2.2) (underway_follows (underway rotatingWorld).2.2))

/-- The first one writes its token, the second one revokes it. -/
def overlapped : Pool.Config (bridge platform.fernet) Exc Response (Store Sealed × RotatingProvider) Bool :=
  let first := ended (overlapping.thread false).rest overlappingWorld
  let second := ended (overlapping.thread true).rest first.world
  (overlapping.advance false (rotatingState first.world) first.trace (ofExcept first.result)).advance true (rotatingState second.world)
    second.trace (ofExcept second.result)

theorem overlapped_reachable : Pool.Reachable rotating twice overlapped :=
  overlapping_reachable.trans ((Pool.reachable_run (ended_runs _ _) (ended_follows _ overlappingWorld)).trans
    (Pool.reachable_run (ended_runs _ _)
      (ended_follows _ (ended (overlapping.thread false).rest overlappingWorld).world)))

theorem overlapped_idle (i : Bool) : ¬Between overlapped i := by
  rintro ⟨_, rest⟩
  cases i with
  | false => exact rest _ rfl
  | true => exact rest _ rfl

end Sample

/-- The slower of two overlapping requests revokes what the faster one has renewed. -/
theorem rotation_revoked :
    Current Sample.credentials Sample.twice.world ∧ Pool.Reachable rotating Sample.twice Sample.overlapped ∧
      (∀ i, Presents Sample.platform Sample.request Sample.credentials ∧ ¬Between Sample.overlapped i) ∧
      (∃ row, Sample.overlapped.world.1 Sample.clientId = some row ∧ row.token = none) ∧
      ¬Current Sample.credentials Sample.overlapped.world := by
  have revoked : (Sample.overlapped.world.1 Sample.clientId).any (fun row => row.token.isNone) = true := by decide +kernel
  obtain ⟨row, found, null⟩ := (Option.any_eq_true _ _).mp revoked
  rw [Option.isNone_iff_eq_none] at null
  refine ⟨Sample.twice_current, Sample.overlapped_reachable, fun i => ⟨Sample.presents, Sample.overlapped_idle i⟩,
    ⟨row, found, null⟩, ?_⟩
  rintro ⟨row', found', stored, opens, _⟩
  obtain rfl := Option.some_inj.mp (found.symm.trans found')
  exact opens.token null

end OAuthClientBridge
