import Mathlib.Data.Rat.Floor
import OAuthClientBridge.Python.Text

/-!
`email.utils.parsedate_tz` and `mktime_tz`, as `parse_retry` calls them. Their input is a header
that `http.client` decoded as Latin-1.
-/

namespace OAuthClientBridge.Python

/-- The code point U+D800 plus the number. -/
abbrev Surrogate := Fin 2048

/-- The exceptions that Python itself raises in the modelled code. -/
inductive PyError where
  | valueError | typeError | attributeError | overflowError | keyError | unicodeDecodeError
  /-- The first run of surrogates in the text, and where it starts. -/
  | unicodeEncodeError (start : Nat) (surrogates : List Surrogate)
  deriving DecidableEq, Repr

structure DateTuple where
  year : Int
  month : Nat
  day : Int
  hour : Int
  minute : Int
  second : Int
  offset : Int
  deriving DecidableEq, Repr

def daynames : List (List Char) := ["mon", "tue", "wed", "thu", "fri", "sat", "sun"].map String.toList

def monthnames : List (List Char) :=
  ["jan", "feb", "mar", "apr", "may", "jun", "jul", "aug", "sep", "oct", "nov", "dec",
   "january", "february", "march", "april", "may", "june", "july",
   "august", "september", "october", "november", "december"].map String.toList

def timezones : List (List Char × Int) :=
  [("UT", 0), ("UTC", 0), ("GMT", 0), ("Z", 0), ("AST", -400), ("ADT", -300), ("EST", -500),
   ("EDT", -400), ("CST", -600), ("CDT", -500), ("MST", -700), ("MDT", -600), ("PST", -800),
   ("PDT", -700)].map fun zone => (zone.1.toList, zone.2)

/-- The text before and after the first occurrence of `c`. -/
def cut? (c : Char) (s : List Char) : Option (List Char × List Char) :=
  if c ∈ s then some (s.takeWhile (· ≠ c), (s.dropWhile (· ≠ c)).drop 1) else none

def dropComma (s : List Char) : List Char := if s.getLast? = some ',' then s.dropLast else s

/-- `str.isdigit` on Latin-1, where the superscripts count as digits too. -/
def isDigitLatin1 (c : Char) : Bool := c.isDigit || c ∈ ['²', '³', '¹']

/-- The words of the date once the name of the day is gone. -/
def skipDayname : List (List Char) → List (List Char)
  | [] => []
  | first :: rest =>
    if first.getLast? = some ',' || lowerAscii first ∈ daynames then rest
    else (first.reverse.takeWhile (· ≠ ',')).reverse :: rest

/-- RFC 850 dates have one word for day, month and year. -/
def splitRfc850 : List (List Char) → List (List Char)
  | [date, tm, tz] =>
    match splitOn '-' date with
    | [dd, mm, yy] => [dd, mm, yy, tm, tz]
    | _ => [date, tm, tz]
  | words => words

/-- A fourth word may end in the time zone. -/
def splitZone : List (List Char) → List (List Char)
  | [dd, mm, yy, s] =>
    let sign := if '+' ∈ s then '+' else '-'
    match cut? sign s with
    | some ([], _) | none => [dd, mm, yy, s, []]
    | some (tm, tz) => [dd, mm, yy, tm, sign :: tz]
  | words => words

def clock? (tm : List Char) : Option (List Char × List Char × List Char) :=
  match splitOn ':' tm with
  | [thh, tmm] => some (thh, tmm, ['0'])
  | [thh, tmm, tss] => some (thh, tmm, tss)
  | [whole] =>
    if '.' ∈ whole then
      match splitOn '.' whole with
      | [thh, tmm] => some (thh, tmm, ['0'])
      | [thh, tmm, tss] => some (thh, tmm, tss)
      | _ => none
    else none
  | _ => none

/-- Seconds east of UTC; an unknown zone counts as UTC, as `parsedate_tz` makes of it. -/
def zoneOffset (tz : List Char) : Int :=
  let tz := upperAscii tz
  let hhmm := match timezones.lookup tz with
    | some offset => offset
    | none => (int? tz).getD 0
  hhmm.sign * ((hhmm.natAbs / 100) * 3600 + (hhmm.natAbs % 100) * 60 : Nat)

def monthOf? (name : List Char) : Option Nat :=
  (monthnames.findIdx? (· = name)).map fun index => if index + 1 > 12 then index + 1 - 12 else index + 1

/-- `email.utils.parsedate_tz(data)`. -/
def parsedateTz (data : List Char) : Option DateTuple := do
  let words := splitZone (splitRfc850 (skipDayname (splitWords data)))
  match words with
  | dd :: mm :: yy :: tm :: tz :: _ =>
    if dd = [] || mm = [] || yy = [] then none
    let (dd, month) ← match monthOf? (lowerAscii mm) with
      | some month => some (dd, month)
      | none => (monthOf? (lowerAscii dd)).map fun month => (lowerAscii mm, month)
    let dd := dropComma dd
    let (yy, tm) := match cut? ':' yy with
      | some (_ :: _, _) => (tm, yy)
      | _ => (yy, tm)
    let yy := dropComma yy
    let first ← yy.head?
    let (yy, tz) := if isDigitLatin1 first then (yy, tz) else (tz, yy)
    let (thh, tmm, tss) ← clock? (dropComma tm)
    let year ← int? yy
    let year := if year < 100 then (if year > 68 then year + 1900 else year + 2000) else year
    return ⟨year, month, ← int? dd, ← int? thh, ← int? tmm, ← int? tss, zoneOffset tz⟩
  | _ => none

def isLeap (year : Int) : Bool := year % 4 = 0 && (year % 100 ≠ 0 || year % 400 = 0)

/-- `datetime.date(year, month, 1).toordinal()` for the years that `date` has. -/
def ordinalOfMonth (year : Int) (month : Nat) : Int :=
  let y := year - 1
  let before := [0, 31, 59, 90, 120, 151, 181, 212, 243, 273, 304, 334].getD (month - 1) 0
  y * 365 + y / 4 - y / 100 + y / 400 + before + (if month > 2 && isLeap year then 1 else 0) + 1

/-- `email.utils.mktime_tz(data)`; `datetime.date` only has the years 1 to 9999. -/
def mktimeTz (date : DateTuple) : Except PyError Int :=
  if date.year < -2 ^ 31 || 2 ^ 31 ≤ date.year then .error .overflowError
  else if date.year < 1 || 9999 < date.year then .error .valueError
  else
    let days := ordinalOfMonth date.year date.month - 719163 + date.day - 1
    .ok (((days * 24 + date.hour) * 60 + date.minute) * 60 + date.second - date.offset)

example : parsedateTz "Fri, 01 Jan 2025 00:00:00 PST".toList = some ⟨2025, 1, 1, 0, 0, 0, -28800⟩ := by decide
example : mktimeTz ⟨2025, 1, 1, 0, 0, 0, -28800⟩ = .ok (1735689600 + 28800) := by decide

end OAuthClientBridge.Python
