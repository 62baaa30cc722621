import OAuthClientBridge.Operations
import OAuthClientBridge.Python.Bytes
import OAuthClientBridge.Python.Text
import Mathlib.Data.List.SplitBy

/-! `urllib.parse`: splitting a URI, and reading and writing its query. -/

namespace OAuthClientBridge.Python

/-- `s.split(sep, 1)`, the second part empty where there is no separator. -/
def cut (sep : Char) (s : List Char) : List Char × List Char :=
  (s.takeWhile (· ≠ sep), (s.dropWhile (· ≠ sep)).drop 1)

/-! ### Quoting -/

def alwaysSafe (c : Char) : Bool := c.isAlphanum || ['_', '.', '-', '~'].contains c

def hexDigits : List Char := "0123456789ABCDEF".toList

/-- `'%{:02X}'.format(b)`. -/
def escape (b : UInt8) : List Char :=
  ['%', hexDigits.getD (b.toNat / 16) '0', hexDigits.getD (b.toNat % 16) '0']

def quoteByte (safe : List Char) (b : UInt8) : List Char :=
  if b < 128 ∧ (alwaysSafe (Char.ofNat b.toNat) ∨ Char.ofNat b.toNat ∈ safe) then [Char.ofNat b.toNat] else escape b

def quoteFromBytes (safe : List Char) (bs : Bytes) : List Char := bs.flatMap (quoteByte safe)

def quote (safe : List Char) (s : List Char) : List Char := quoteFromBytes safe (encodeUtf8 s)

def quotePlus (s : List Char) : List Char := (quote [' '] s).map fun c => if c = ' ' then '+' else c

def hexDigit? (c : Char) : Option Nat :=
  if '0' ≤ c ∧ c ≤ '9' then some (c.toNat - 48)
  else if 'A' ≤ c ∧ c ≤ 'F' then some (c.toNat - 55)
  else if 'a' ≤ c ∧ c ≤ 'f' then some (c.toNat - 87)
  else none

/-- `_hextobyte`. -/
def hexToByte? (a b : Char) : Option UInt8 := do return UInt8.ofNat (16 * (← hexDigit? a) + (← hexDigit? b))

def unquoteImpl : List Char → Bytes
  | [] => []
  | '%' :: a :: b :: rest =>
    match hexToByte? a b with
    | some byte => byte :: unquoteImpl rest
    | none => 37 :: unquoteImpl (a :: b :: rest)
  | c :: rest => String.utf8EncodeChar c ++ unquoteImpl rest

def isAsciiChar (c : Char) : Bool := c.toNat < 128

/-- `unquote(string)`: each run of ASCII on its own, what is undecodable in it replaced. -/
def unquote (s : List Char) : List Char :=
  if '%' ∉ s then s
  else (s.splitBy fun a b => isAsciiChar a == isAsciiChar b).flatMap fun run =>
    if run.all isAsciiChar then decodeUtf8 (unquoteImpl run) else run

def unquotePlus (s : List Char) : List Char := unquote (s.map fun c => if c = '+' then ' ' else c)

/-! ### Queries -/

/-- `parse_qsl(qs, keep_blank_values=True)`. -/
def parseQsl (qs : String) : List (String × String) :=
  ((splitOn '&' qs.toList).filter (· ≠ [])).map fun field =>
    let (name, value) := cut '=' field
    (String.ofList (unquotePlus name), String.ofList (unquotePlus value))

def addValue (dict : List (String × List String)) (field : String × String) : List (String × List String) :=
  if dict.any (·.1 = field.1) then
    dict.map fun entry => if entry.1 = field.1 then (entry.1, entry.2 ++ [field.2]) else entry
  else dict ++ [(field.1, [field.2])]

/-- `parse_qs(qs, keep_blank_values=True)`. -/
def parseQs (qs : String) : List (String × List String) := (parseQsl qs).foldl addValue []

def urlencodeField (field : String × String) : List Char :=
  quotePlus field.1.toList ++ '=' :: quotePlus field.2.toList

def urlencode (query : List (String × String)) : String :=
  String.ofList (['&'].intercalate (query.map urlencodeField))

/-! ### URIs -/

def isC0OrSpace (c : Char) : Bool := c.toNat ≤ 0x20

/-- `_UNSAFE_URL_BYTES_TO_REMOVE`. -/
def isUnsafe (c : Char) : Bool := ['\t', '\r', '\n'].contains c

def isSchemeChar (c : Char) : Bool := c.isAlphanum || ['+', '-', '.'].contains c

def splitScheme (url : List Char) : List Char × List Char :=
  match url.takeWhile (· ≠ ':'), url.dropWhile (· ≠ ':') with
  | c :: scheme, _ :: rest =>
    if c.isAlpha ∧ (c :: scheme).all isSchemeChar then (lowerAscii (c :: scheme), rest) else ([], url)
  | _, _ => ([], url)

def endsNetloc (c : Char) : Bool := ['/', '?', '#'].contains c

def splitNetloc : List Char → List Char × List Char
  | '/' :: '/' :: rest => (rest.takeWhile (!endsNetloc ·), rest.dropWhile (!endsNetloc ·))
  | url => ([], url)

/-- `urlsplit(url)`, `none` where it raises `ValueError`. `checkNetloc` stands for what
`_check_bracketed_netloc` and `_checknetloc` find: the syntax of a bracketed host and Unicode's NFKC. -/
def urlsplit (checkNetloc : String → Bool) (url : String) : Option SplitUri :=
  let url := (url.toList.dropWhile isC0OrSpace).filter (!isUnsafe ·)
  let (scheme, url) := splitScheme url
  let (netloc, url) := splitNetloc url
  let (url, fragment) := cut '#' url
  let (path, query) := cut '?' url
  if ('[' ∈ netloc ↔ ']' ∈ netloc) ∧ (netloc = [] ∨ checkNetloc (String.ofList netloc)) then
    some {
      scheme := String.ofList scheme
      netloc := String.ofList netloc
      path := String.ofList path
      query := String.ofList query
      fragment := String.ofList fragment }
  else none

def usesNetloc : List String :=
  ["", "ftp", "http", "gopher", "nntp", "telnet", "imap", "wais", "file", "mms", "https", "shttp", "snews",
   "prospero", "rtsp", "rtsps", "rtspu", "rsync", "svn", "svn+ssh", "sftp", "nfs", "git", "git+ssh", "ws", "wss",
   "itms-services"]

def urlunsplit (split : SplitUri) : String :=
  let path := split.path.toList
  let url :=
    if split.netloc ≠ "" ∨ (split.scheme ≠ "" ∧ split.scheme ∈ usesNetloc ∧ path.take 2 ≠ ['/', '/']) then
      '/' :: '/' :: split.netloc.toList ++ (if path ≠ [] ∧ path.head? ≠ some '/' then '/' :: path else path)
    else path
  let url := if split.scheme ≠ "" then split.scheme.toList ++ ':' :: url else url
  let url := if split.query ≠ "" then url ++ '?' :: split.query.toList else url
  String.ofList (if split.fragment ≠ "" then url ++ '#' :: split.fragment.toList else url)

example : parseQs "a=%E2%82&b&&a=+%2B%zz" = [("a", ["\uFFFD", " +%zz"]), ("b", [""])] := by decide +kernel

example : (urlsplit (fun _ => true) " HTTPS://h\n?q#f?").map (fun s => (s.scheme, s.netloc, s.query, s.fragment)) =
    some ("https", "h", "q", "f?") := by decide +kernel

end OAuthClientBridge.Python
