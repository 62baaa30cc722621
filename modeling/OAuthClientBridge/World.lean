import Mathlib.Data.Stream.Init
import OAuthClientBridge.Effect.Machine
import OAuthClientBridge.Views.Sequential

/-!
A world that answers every operation of the bridge: the table and the session, and one stream of
answers for each source that the bridge does not control.
-/

namespace OAuthClientBridge
open Python Effect

structure World {τ : Type} (F : Fernet τ) where
  store : Store τ
  session : String → Option String := fun _ => none
  monotonic : Stream' ℚ := fun _ => 0
  utcnow : Stream' ℚ := fun _ => 0
  uniform : Stream' ℚ := fun _ => 1
  budget : Stream' Bool := fun _ => true
  upstream : Stream' Upstream
  keys : Stream' (ClientSecret F)
  ids : Stream' ClientId
  nonces : Stream' Nonce := fun _ => ⟨0, 0⟩
  emitted : List Emission := []

namespace World
variable {τ : Type} {F : Fernet τ}

/-- The machine that takes each answer from the front of its stream. -/
def answer : Machine (bridge F) (World F)
  | .monotonic, w => (w.monotonic.head, { w with monotonic := w.monotonic.tail })
  | .utcnow, w => (w.utcnow.head, { w with utcnow := w.utcnow.tail })
  | .sleep _, w => ((), w)
  | .uniform _ _, w => (w.uniform.head, { w with uniform := w.uniform.tail })
  | .budgetAdd _, w => ((), w)
  | .budgetConsume, w => (w.budget.head, { w with budget := w.budget.tail })
  | .send _ _ _, w => (w.upstream.head, { w with upstream := w.upstream.tail })
  | .select id, w => (w.store id, w)
  | .insert id token now, w => ((w.store.insert id token now).1,
      { w with store := (w.store.insert id token now).2 })
  | .update id token now, w => ((w.store.update id token now).1,
      { w with store := (w.store.update id token now).2 })
  | .generateKey, w => (w.keys.head, { w with keys := w.keys.tail })
  | .generateId, w => (w.ids.head, { w with ids := w.ids.tail })
  | .nonce, w => (w.nonces.head, { w with nonces := w.nonces.tail })
  | .sessionPop key, w => (w.session key, { w with session := Function.update w.session key none })
  | .sessionSet key value, w => ((), { w with session := Function.update w.session key value })
  | .emit e, w => ((), { w with emitted := w.emitted ++ [e] })

theorem answer_store (o : Op τ) (w : World F) :
    Store.Step w.store ⟨o, (answer o w).1⟩ (answer o w).2.store := by
  cases o <;> first | rfl | exact ⟨rfl, rfl⟩

theorem eval_follows_store {α : Type} (p : Action F α) (w : World F) :
    Follows Store.Step w.store (p.eval answer w).trace (p.eval answer w).world.store :=
  Program.eval_follows World.store answer_store p w

theorem eval_answers {α : Type} {a : Upstream} (p : Action F α) (w : World F) (constant : w.upstream = fun _ => a) :
    ∀ a' ∈ answers (seen (p.eval answer w).trace), a' = a := by
  induction p generalizing w with
  | pure _ | throw _ => simp [Program.eval]
  | op o next ih =>
    cases o with
    | send uri data timeout =>
      have head : w.upstream.head = a := by rw [constant]; rfl
      have tail : w.upstream.tail = fun _ => a := by rw [constant]; rfl
      simpa [Program.eval, answer, head] using ih a { w with upstream := w.upstream.tail } tail
    | uniform low high => simpa [Program.eval, answer] using ih _ { w with uniform := w.uniform.tail } constant
    | _ => exact ih _ _ constant

theorem eval_last {α : Type} {a : Upstream} {p : Action F α} {w : World F} (constant : w.upstream = fun _ => a)
    (asked : (answers (seen (p.eval answer w).trace)).isEmpty = false) :
    (answers (seen (p.eval answer w).trace)).getLast? = some a := by
  cases last : (answers (seen (p.eval answer w).trace)).getLast? with
  | none => simp [List.getLast?_eq_none_iff.mp last] at asked
  | some a' => rw [eval_answers p w constant a' (List.mem_of_getLast? last)]

end World

/-! ### A symbolic deployment -/

/-- A token that shows what it was made of; only its key opens it. -/
structure Sealed where
  key : String
  nonce : Nonce
  payload : Payload

/-- Keys are the texts of the right length, 32 bytes in base64. -/
def symbolicFernet : Fernet Sealed where
  Key := String
  key text := if text.length = 44 then some text else none
  encrypt key nonce payload := ⟨key, nonce, payload⟩
  decrypt key token := if key = token.key then some (.object token.payload) else none
  isEmpty _ := false
  decrypt_encrypt _ _ _ := by simp
  authentic h := by simpa using Option.isSome_of_mem h
  encrypt_nonempty _ _ _ := rfl

def symbolicSecret (text : String) (length : text.length = 44) : ClientSecret symbolicFernet where
  text := text
  normalized := normalizeBase64Padding_of_aligned (by rw [length])
  key := text
  decodes := by simp [symbolicFernet, length]

/-- A platform that knows the text of one client id. -/
def symbolicPlatform (id : ClientId) : Platform Sealed where
  fernet := symbolicFernet
  uuid text := if text = id.str then some id else none
  search _ _ := false
  repr _ := ""
  urlsplit uri := some ⟨"", "", uri, "", ""⟩
  urlunsplit split := split.path
  parseQs _ := []
  urlencode _ := ""
  metered := false

namespace Sample

def clientId : ClientId := ⟨1⟩

def secret : ClientSecret symbolicFernet :=
  symbolicSecret "AAAAAAAAAAAAAAAAAAAAAAAAAAAAAAAAAAAAAAAAAAA=" (by decide)

abbrev platform : Platform Sealed := symbolicPlatform clientId

def credentials : ClientCredentials platform.fernet := ⟨clientId, secret⟩

def settings : Settings where
  callbackTemplate := ""
  oauth :=
    { clientId := "client", clientSecret := "secret", authorizationUri := "https://provider/authorize",
      tokenUri := "https://provider/token" }

def request : TokenRequest where
  form := [("grant_type", "client_credentials"), ("client_id", clientId.str), ("client_secret", secret.text)]
  authorization := .absent
  userAgent := ""

theorem presents : Presents platform request credentials :=
  ⟨some clientId.str, some secret.text, by decide +kernel, @validateCredentials_ok _ platform _ _ secret (by decide +kernel)
    (by decide +kernel) (by decide +kernel) (by simp [symbolicPlatform])⟩

def row (stored : Payload) : Row Sealed := ⟨some ⟨secret.key, ⟨0, 0⟩, stored⟩, some 0, some 0⟩

def store (stored : Payload) : Store Sealed := fun id => if id = clientId then some (row stored) else none

theorem refreshable {stored : Payload} (h : stored.contains "refresh_token" = true) :
    Refreshable platform request (store stored) credentials (row stored) stored where
  presents := presents
  found := by simp [store, credentials]
  opens := ⟨_, rfl, (loads_eq credentials.clientSecret _).trans
    (symbolicFernet.decrypt_encrypt secret.key ⟨0, 0⟩ stored)⟩
  refreshable := h

def world (stored : Payload) (upstream : Stream' Upstream) : World symbolicFernet where
  store := store stored
  upstream := upstream
  keys _ := secret
  ids _ := clientId

def grant : Payload := .ofList [("refresh_token", Json.str "first")]

def response (statusCode : Nat) (body : Payload) : Upstream :=
  .response { statusCode, body := .document (.object body) }

def tokenRun (stored : Payload) (upstream : Stream' Upstream) :
    Outcome (bridge platform.fernet) Exc Response (World platform.fernet) :=
  (serve settings (token platform settings request)).eval World.answer (world stored upstream)

theorem tokenRun_runs (stored : Payload) (upstream : Stream' Upstream) :
    Program.Runs (serve settings (token platform settings request)) (tokenRun stored upstream).trace
      (tokenRun stored upstream).result :=
  Program.eval_runs _ _ _

theorem tokenRun_follows (stored : Payload) (upstream : Stream' Upstream) :
    Follows Store.Step (store stored) (tokenRun stored upstream).trace (tokenRun stored upstream).world.store :=
  World.eval_follows_store _ (world stored upstream)

theorem tokenRun_result (stored : Payload) (upstream : Stream' Upstream) :
    ∃ response, (tokenRun stored upstream).result = .ok response := by
  obtain ⟨r₀, _, answer⟩ :=
    (serve_ensures settings (token_ensures platform settings request)).runs (tokenRun_runs stored upstream)
  exact ⟨_, answer⟩

def arguments : List (String × String) := [("state", "state"), ("code", "code")]

def emptyWorld (upstream : Stream' Upstream) : World symbolicFernet where
  store _ := none
  session key := if key = "state" then some "state" else none
  upstream := upstream
  keys _ := secret
  ids _ := clientId

def callbackRun (upstream : Stream' Upstream) :
    Outcome (bridge platform.fernet) Exc Response (World platform.fernet) :=
  (serve settings (callback platform settings arguments)).eval World.answer (emptyWorld upstream)

theorem callbackRun_runs (upstream : Stream' Upstream) :
    Program.Runs (serve settings (callback platform settings arguments)) (callbackRun upstream).trace
      (callbackRun upstream).result :=
  Program.eval_runs _ _ _

theorem callbackRun_follows (upstream : Stream' Upstream) :
    Follows Store.Step (fun _ => none) (callbackRun upstream).trace (callbackRun upstream).world.store :=
  World.eval_follows_store _ (emptyWorld upstream)

theorem callbackRun_result (upstream : Stream' Upstream) :
    ∃ response, (callbackRun upstream).result = .ok response := by
  obtain ⟨r₀, _, answer⟩ :=
    (serve_ensures settings (callback_ensures platform settings arguments)).runs (callbackRun_runs upstream)
  exact ⟨_, answer⟩

end Sample
end OAuthClientBridge
