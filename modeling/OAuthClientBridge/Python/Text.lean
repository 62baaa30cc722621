import Mathlib.Data.List.Basic

/-!
The parts of Python's `str` and `int(str)` that the bridge uses, on lists of characters.
These are Unicode scalar values; a `str` with a lone surrogate is a `LoneText`.
-/

namespace OAuthClientBridge.Python

/-- `str.isspace` for one character. -/
def isSpace (c : Char) : Bool :=
  let n := c.toNat
  (9 ≤ n && n ≤ 13) || (28 ≤ n && n ≤ 32) || n == 0x85 || n == 0xa0 || n == 0x1680 ||
    (0x2000 ≤ n && n ≤ 0x200a) || n == 0x2028 || n == 0x2029 || n == 0x202f || n == 0x205f || n == 0x3000

/-- The zeros of the decimal digit ranges of Unicode 15, the version of Python 3.12. -/
def decimalZeros : List Nat :=
  [0x30, 0x660, 0x6f0, 0x7c0, 0x966, 0x9e6, 0xa66, 0xae6, 0xb66, 0xbe6, 0xc66, 0xce6, 0xd66, 0xde6,
   0xe50, 0xed0, 0xf20, 0x1040, 0x1090, 0x17e0, 0x1810, 0x1946, 0x19d0, 0x1a80, 0x1a90, 0x1b50, 0x1bb0,
   0x1c40, 0x1c50, 0xa620, 0xa8d0, 0xa900, 0xa9d0, 0xa9f0, 0xaa50, 0xabf0, 0xff10, 0x104a0, 0x10d30,
   0x11066, 0x110f0, 0x11136, 0x111d0, 0x112f0, 0x11450, 0x114d0, 0x11650, 0x116c0, 0x11730, 0x118e0,
   0x11950, 0x11c50, 0x11d50, 0x11da0, 0x11f50, 0x16a60, 0x16ac0, 0x16b50, 0x1d7ce, 0x1d7d8, 0x1d7e2,
   0x1d7ec, 0x1d7f6, 0x1e140, 0x1e2f0, 0x1e4f0, 0x1e950, 0x1fbf0]

def digit? (c : Char) : Option Nat :=
  (decimalZeros.find? fun low => low ≤ c.toNat && c.toNat < low + 10).map (c.toNat - ·)

def strip (s : List Char) : List Char :=
  ((s.dropWhile isSpace).reverse.dropWhile isSpace).reverse

/-- `str.split()`: the maximal runs of characters that are not white space. -/
def splitWords (s : List Char) : List (List Char) :=
  (s.splitOnP isSpace).filter (· ≠ [])

/-- A run of decimal digits, single underscores allowed between them. -/
def digits? : List Char → Option (List Nat)
  | [] => none
  | [c] => (digit? c).map ([·])
  | c :: '_' :: rest => do return (← digit? c) :: (← digits? rest)
  | c :: rest => do return (← digit? c) :: (← digits? rest)

def natOfDigits (ds : List Nat) : Nat := ds.foldl (fun n d => 10 * n + d) 0

/-- `sys.get_int_max_str_digits()`. -/
def maxStrDigits : Nat := 4300

/-- `int(s)`, `none` where it raises `ValueError`. -/
def int? (s : List Char) : Option Int :=
  let unsigned (rest : List Char) : Option Int := do
    let ds ← digits? rest
    if ds.length ≤ maxStrDigits then some (natOfDigits ds : Int) else none
  match strip s with
  | '-' :: rest => (unsigned rest).map (- ·)
  | '+' :: rest => unsigned rest
  | rest => unsigned rest

/-- `s.lower()` and `s.upper()` on the letters of ASCII, all that a comparison with an ASCII word needs. -/
def lowerAscii (s : List Char) : List Char := s.map Char.toLower
def upperAscii (s : List Char) : List Char := s.map Char.toUpper

/-- The names are the same but for the case of their letters. -/
def sameIgnoringCase (a b : String) : Bool := lowerAscii a.toList = lowerAscii b.toList

/-- `s.split(sep)` for a one-character separator. -/
def splitOn (sep : Char) (s : List Char) : List (List Char) := s.splitOn sep

example : int? " -1_0 ".toList = some (-10) := by decide
example : splitWords " a  b".toList = ["a".toList, "b".toList] := by decide

end OAuthClientBridge.Python
