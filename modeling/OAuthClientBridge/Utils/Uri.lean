import OAuthClientBridge.Python.Urllib

/-! `utils/uri.py`: a URI with its query parameters replaced, or with their values hidden. -/

namespace OAuthClientBridge
open Python

abbrev UriParam := List (String × String)

/-- `query[p] = [value]`; a parameter that is there keeps its place. -/
def overrideParam (query : List (String × List String)) (param : String × String) : List (String × List String) :=
  if query.any (·.1 = param.1) then
    query.map fun entry => if entry.1 = param.1 then (param.1, [param.2]) else entry
  else query ++ [(param.1, [param.2])]

section
variable {τ : Type} (P : Platform τ)

def rewriteQuery (original : String) (params : UriParam) : String :=
  let query := params.foldl overrideParam (P.parseQs original)
  P.urlencode (query.flatMap fun entry => entry.2.map fun value => (entry.1, value))

def rewriteUri (uri : String) (params : UriParam) : Except PyError String :=
  match P.urlsplit uri with
  | some split => .ok (P.urlunsplit { split with query := rewriteQuery P split.query params })
  | none => .error .valueError

end

def redactedUrlValue : String := "<REDACTED>"

/-- A key as `sanitize_url` writes it. -/
def redactedField (key : String) : List Char := quote [] key.toList ++ '=' :: redactedUrlValue.toList

def filteredQuery (query : String) : String :=
  String.ofList (['&'].intercalate ((parseQsl query).map fun field => redactedField field.1))

/-- `sanitize_url(url)`, with `urllib.parse`. -/
def sanitizeUrl (checkNetloc : String → Bool) : Option String → Except PyError (Option String)
  | none => .ok none
  | some url =>
    match urlsplit checkNetloc url with
    | none => .error .valueError
    | some parts =>
      if parts.query = "" then .ok (some url)
      else .ok (some (urlunsplit { parts with query := filteredQuery parts.query }))

end OAuthClientBridge
