import Mathlib.Data.List.Basic

/-! Python's `bytes`, and the two codecs that the bridge and its libraries use on them. -/

namespace OAuthClientBridge.Python

abbrev Bytes := List UInt8

def isAscii (bytes : Bytes) : Bool := bytes.all (· < 128)

def asciiChars (bytes : Bytes) : List Char := bytes.map fun b => Char.ofNat b.toNat

/-- `bytes.decode("ascii")`, `none` where it raises `UnicodeDecodeError`. -/
def decodeAscii (bytes : Bytes) : Option (List Char) := if isAscii bytes then some (asciiChars bytes) else none

/-- `text.encode("utf-8")`. -/
def encodeUtf8 (text : List Char) : Bytes := text.flatMap String.utf8EncodeChar

/-- The continuation bytes that a first byte asks for, and what the first of them may be. -/
def continuation (first : UInt8) : Nat × UInt8 × UInt8 :=
  if first < 0xc2 then (0, 0, 0)
  else if first < 0xe0 then (1, 0x80, 0xbf)
  else if first < 0xf0 then
    (2, if first = 0xe0 then 0xa0 else 0x80, if first = 0xed then 0x9f else 0xbf)
  else if first < 0xf5 then
    (3, if first = 0xf0 then 0x90 else 0x80, if first = 0xf4 then 0x8f else 0xbf)
  else (0, 0, 0)

/-- The bytes that one replacement character stands for: those that begin a character, at least one. -/
def malformed : Bytes → Nat
  | [] => 1
  | first :: rest =>
    match continuation first, rest with
    | (0, _), _ | _, [] => 1
    | (more + 1, low, high), second :: rest =>
      if low ≤ second ∧ second ≤ high then
        2 + ((rest.take more).takeWhile fun b => 0x80 ≤ b ∧ b ≤ 0xbf).length
      else 1

def decodeUtf8From : Nat → Bytes → List Char
  | 0, _ | _, [] => []
  | fuel + 1, bytes =>
    match bytes.toByteArray.utf8DecodeChar? 0 with
    | some c => c :: decodeUtf8From fuel (bytes.drop c.utf8Size)
    | none => Char.ofNat 0xfffd :: decodeUtf8From fuel (bytes.drop (malformed bytes))

/-- `bytes.decode("utf-8", "replace")`. -/
def decodeUtf8 (bytes : Bytes) : List Char := decodeUtf8From bytes.length bytes

example : decodeUtf8 [0xe2, 0x82, 0xac, 0xe2, 0x82, 0x41, 0xff, 0xf0, 0x80] =
    ['€', Char.ofNat 0xfffd, 'A', Char.ofNat 0xfffd, Char.ofNat 0xfffd, Char.ofNat 0xfffd] := by decide +kernel

@[simp] theorem encodeUtf8_nil : encodeUtf8 [] = [] := rfl

@[simp] theorem encodeUtf8_cons (c : Char) (text : List Char) :
    encodeUtf8 (c :: text) = String.utf8EncodeChar c ++ encodeUtf8 text := rfl

theorem decodeUtf8From_append (fuel : Nat) (c : Char) (rest : Bytes) :
    decodeUtf8From (fuel + 1) (String.utf8EncodeChar c ++ rest) = c :: decodeUtf8From fuel rest := by
  have first : (String.utf8EncodeChar c ++ rest).toByteArray.utf8DecodeChar? 0 = some c := by
    rw [List.toByteArray_append]
    exact ByteArray.utf8DecodeChar?_utf8EncodeChar_append
  have left : (String.utf8EncodeChar c ++ rest).drop c.utf8Size = rest := by
    rw [← String.length_utf8EncodeChar c, List.drop_left]
  generalize String.utf8EncodeChar c ++ rest = bytes at first left
  cases bytes with
  | nil => cases first
  | cons b bytes => simp only [decodeUtf8From, first, left]

theorem decodeUtf8From_encodeUtf8 {fuel : Nat} {text : List Char} (enough : text.length ≤ fuel) :
    decodeUtf8From fuel (encodeUtf8 text) = text := by
  induction text generalizing fuel with
  | nil => cases fuel <;> rfl
  | cons c text ih =>
    cases fuel with
    | zero => cases enough
    | succ fuel => rw [encodeUtf8_cons, decodeUtf8From_append, ih (Nat.le_of_succ_le_succ enough)]

theorem length_le_encodeUtf8 (text : List Char) : text.length ≤ (encodeUtf8 text).length := by
  induction text with
  | nil => exact Nat.le_refl 0
  | cons c text ih =>
    rw [encodeUtf8_cons, List.length_append, String.length_utf8EncodeChar, List.length_cons]
    have := c.utf8Size_pos
    omega

@[simp] theorem decodeUtf8_encodeUtf8 (text : List Char) : decodeUtf8 (encodeUtf8 text) = text :=
  decodeUtf8From_encodeUtf8 (length_le_encodeUtf8 text)

theorem utf8EncodeChar_ascii {b : UInt8} (ascii : b < 128) : String.utf8EncodeChar (Char.ofNat b.toNat) = [b] := by
  have small : b.toNat < 128 := ascii
  have value : (Char.ofNat b.toNat).val.toNat = b.toNat := by
    have valid : b.toNat.isValidChar := .inl (by omega)
    rw [Char.ofNat, dif_pos valid]
    rfl
  unfold String.utf8EncodeChar
  simp only [value]
  rw [if_pos (by omega), UInt8.ofNat_toNat]

theorem encodeUtf8_asciiChars {bytes : Bytes} (ascii : isAscii bytes = true) :
    encodeUtf8 (asciiChars bytes) = bytes := by
  induction bytes with
  | nil => rfl
  | cons b bytes ih =>
    obtain ⟨low, rest⟩ : b < 128 ∧ isAscii bytes = true := by simpa [isAscii] using ascii
    rw [asciiChars, List.map_cons, encodeUtf8_cons, utf8EncodeChar_ascii low, ← asciiChars, ih rest]
    rfl

end OAuthClientBridge.Python
