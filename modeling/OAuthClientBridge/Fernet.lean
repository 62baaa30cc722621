import OAuthClientBridge.Python.Json

/-!
Fernet, an authenticated cipher that comes from a third-party package, and the secrets it keys.
`τ` is the type of encrypted tokens; a token's text is never looked into.
-/

namespace OAuthClientBridge
open Python

/-- What `Fernet.encrypt` draws: the initialisation vector and the time it stamps. -/
structure Nonce where
  iv : BitVec 128
  time : Nat
  deriving DecidableEq

/-- The plaintext of a token is the JSON object that `json.dumps` wrote. -/
structure Fernet (τ : Type) where
  Key : Type
  /-- `Fernet(text.encode("ascii"))`, `none` where it raises `ValueError` or `binascii.Error`. -/
  key : String → Option Key
  encrypt : Key → Nonce → Payload → τ
  /-- `json.loads(f.decrypt(token).decode("utf-8"))`, `none` where any of the three raises. -/
  decrypt : Key → τ → Option Document
  /-- `len(token) == 0`. -/
  isEmpty : τ → Bool
  decrypt_encrypt : ∀ k nonce p, decrypt k (encrypt k nonce p) = some (.object p)
  authentic : ∀ {k k' nonce p d}, decrypt k' (encrypt k nonce p) = some d → k' = k
  encrypt_nonempty : ∀ k nonce p, isEmpty (encrypt k nonce p) = false

/-- `_normalize_base64_padding`. -/
def normalizeBase64Padding (key : String) : String :=
  let remainder := key.length % 4
  if remainder = 2 ∨ remainder = 3 then key ++ String.ofList (List.replicate (4 - remainder) '=') else key

theorem normalizeBase64Padding_of_aligned {key : String} (h : key.length % 4 = 0) :
    normalizeBase64Padding key = key := by
  simp [normalizeBase64Padding, h]

theorem normalizeBase64Padding_idem (key : String) :
    normalizeBase64Padding (normalizeBase64Padding key) = normalizeBase64Padding key := by
  by_cases h : key.length % 4 = 2 ∨ key.length % 4 = 3
  · apply normalizeBase64Padding_of_aligned
    simp only [normalizeBase64Padding, if_pos h, String.length_append, String.length_ofList,
      List.length_replicate]
    omega
  · simp [normalizeBase64Padding, h]

variable {τ : Type}

/-- A secret that Fernet takes as a key, with its padding complete. -/
structure ClientSecret (F : Fernet τ) where
  text : String
  normalized : normalizeBase64Padding text = text
  key : F.Key
  decodes : F.key text = some key

/-- `validate_key`, `none` where it raises `InvalidToken`. -/
def validateKey (F : Fernet τ) (key : String) : Option (ClientSecret F) :=
  match h : F.key (normalizeBase64Padding key) with
  | some k => some ⟨normalizeBase64Padding key, normalizeBase64Padding_idem key, k, h⟩
  | none => none

/-- `loads`, `none` where it raises. -/
def loads {F : Fernet τ} (key : ClientSecret F) (token : τ) : Option Document := do
  F.decrypt (← F.key (normalizeBase64Padding key.text)) token

theorem loads_eq {F : Fernet τ} (key : ClientSecret F) (token : τ) :
    loads key token = F.decrypt key.key token := by
  simp [loads, key.normalized, key.decodes]

theorem validateKey_text {F : Fernet τ} (secret : ClientSecret F) : validateKey F secret.text = some secret := by
  obtain ⟨text, normalized, key, decodes⟩ := secret
  unfold validateKey
  split
  · rename_i k found
    obtain rfl : k = key := Option.some.inj (found.symm.trans (normalized.symm ▸ decodes))
    simp [normalized]
  · rename_i missing
    simp [normalized, decodes] at missing

end OAuthClientBridge
