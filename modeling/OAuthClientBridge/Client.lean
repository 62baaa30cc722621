import OAuthClientBridge.Operations

/-! `client.py`: the credentials that the bridge issued to its callers. -/

namespace OAuthClientBridge

structure ClientCredentials {τ : Type} (F : Fernet τ) where
  clientId : ClientId
  clientSecret : ClientSecret F

/-- `CredentialValidationError` with its message, and its two subclasses. -/
inductive CredentialError where
  | credential (message : String)
  | clientId
  | clientSecret

def validateCredentials {τ : Type} (P : Platform τ) (clientId clientSecret : Option String) :
    Except CredentialError (ClientCredentials P.fernet) :=
  match clientId with
  | none | some "" => .error (.credential "client_id must be set.")
  | some id =>
    if clientId = clientSecret then
      .error (.credential "client_id and client_secret set to same value.")
    else match P.uuid id with
      | none => .error .clientId
      | some uuid => match clientSecret with
        | none | some "" => .error (.credential "client_secret must be set.")
        | some secret => match validateKey P.fernet secret with
          | none => .error .clientSecret
          | some key => .ok ⟨uuid, key⟩

theorem validateCredentials_ok {τ : Type} {P : Platform τ} {id : String} {uuid : ClientId}
    {secret : ClientSecret P.fernet} (idSet : id ≠ "") (secretSet : secret.text ≠ "")
    (differ : id ≠ secret.text) (parsed : P.uuid id = some uuid) :
    validateCredentials P (some id) (some secret.text) = .ok ⟨uuid, secret⟩ := by
  simp [validateCredentials, differ, parsed, validateKey_text]

end OAuthClientBridge
