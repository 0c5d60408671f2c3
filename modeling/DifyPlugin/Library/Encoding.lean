import Mathlib.Data.Nat.Digits.Defs
import DifyPlugin.Library.Decoding

/-!
# Encodings of bytes as text and of text as bytes

`hexlify` and `b64encode` write bytes in characters, `unhexlify` and `b64decode` read them back.
`b64decode` is the lenient decoder of the standard library: it skips characters outside of the
alphabet and stops at a complete padding. `utf8Encode` and `utf8Decode` are strict.
-/

namespace DifyPlugin.Encoding

open Decoding

section Hexadecimal

/-- `binascii.hexlify(data).decode()`. -/
def hexlify (data : Bytes) : Text :=
  data.flatMap fun byte => [Nat.digitChar (byte.toNat / 16), Nat.digitChar (byte.toNat % 16)]

/-- The value of a hexadecimal digit in either case. -/
def hexValue (char : Char) : Option Nat :=
  let code := char.toNat
  if 48 ≤ code ∧ code ≤ 57 then some (code - 48)
  else if 97 ≤ code ∧ code ≤ 102 then some (code - 87)
  else if 65 ≤ code ∧ code ≤ 70 then some (code - 55)
  else none

/-- `binascii.unhexlify`, which rejects an odd length and every other character. -/
def unhexlify : Text → Option Bytes
  | [] => some []
  | [_] => none
  | high :: low :: rest =>
    match hexValue high, hexValue low, unhexlify rest with
    | some high, some low, some bytes => some (UInt8.ofNat (high * 16 + low) :: bytes)
    | _, _, _ => none

/-- A digit has the value it was written for. -/
theorem hexValue_digitChar {value : Nat} (bound : value < 16) :
    hexValue (Nat.digitChar value) = some value := by
  have every : ∀ value < 16, hexValue (Nat.digitChar value) = some value := by decide
  exact every value bound

@[simp] theorem hexlify_append (left right : Bytes) :
    hexlify (left ++ right) = hexlify left ++ hexlify right :=
  List.flatMap_append

/-- Reading hexadecimal digits gives back the bytes. -/
theorem unhexlify_hexlify (data : Bytes) : unhexlify (hexlify data) = some data := by
  induction data with
  | nil => rfl
  | cons byte rest ih =>
    have bound := byte.toNat_lt
    have high : hexValue (Nat.digitChar (byte.toNat / 16)) = some (byte.toNat / 16) :=
      hexValue_digitChar (by omega)
    have low : hexValue (Nat.digitChar (byte.toNat % 16)) = some (byte.toNat % 16) :=
      hexValue_digitChar (by omega)
    have whole : byte.toNat / 16 * 16 + byte.toNat % 16 = byte.toNat := by omega
    have tail : unhexlify (rest.flatMap fun byte =>
        [Nat.digitChar (byte.toNat / 16), Nat.digitChar (byte.toNat % 16)]) = some rest := ih
    simp only [hexlify, List.flatMap_cons, List.cons_append, List.nil_append, unhexlify, high, low,
      tail, whole, UInt8.ofNat_toNat]

end Hexadecimal

section Base64

/-- The alphabet of Base64. -/
def b64Char (value : Nat) : Char :=
  if value < 26 then Char.ofNat (value + 65)
  else if value < 52 then Char.ofNat (value + 71)
  else if value < 62 then Char.ofNat (value - 4)
  else if value = 62 then '+'
  else '/'

/-- The value of a character of the alphabet. -/
def b64Value (char : Char) : Option Nat :=
  let code := char.toNat
  if 65 ≤ code ∧ code ≤ 90 then some (code - 65)
  else if 97 ≤ code ∧ code ≤ 122 then some (code - 71)
  else if 48 ≤ code ∧ code ≤ 57 then some (code + 4)
  else if code = 43 then some 62
  else if code = 47 then some 63
  else none

/-- `base64.b64encode(data).decode()`. -/
def b64encode : Bytes → Text
  | [] => []
  | [first] => [b64Char (first.toNat / 4), b64Char (first.toNat % 4 * 16), '=', '=']
  | [first, second] =>
    [b64Char (first.toNat / 4), b64Char (first.toNat % 4 * 16 + second.toNat / 16),
      b64Char (second.toNat % 16 * 4), '=']
  | first :: second :: third :: rest =>
    [b64Char (first.toNat / 4), b64Char (first.toNat % 4 * 16 + second.toNat / 16),
      b64Char (second.toNat % 16 * 4 + third.toNat / 64), b64Char (third.toNat % 64)] ++
      b64encode rest

/-- The loop of `binascii.a2b_base64`: the position in a group of four characters, the bits that
are left over, and the padding that was seen. -/
def scanBase64 : Nat → Nat → Nat → Text → Option Bytes
  | quadPos, _, _, [] => if quadPos = 0 then some [] else none
  | quadPos, left, pads, char :: rest =>
    if char = '=' then
      if 2 ≤ quadPos then
        if 4 ≤ quadPos + (pads + 1) then some [] else scanBase64 quadPos left (pads + 1) rest
      else scanBase64 quadPos left pads rest
    else
      match b64Value char, quadPos with
      | none, _ => scanBase64 quadPos left pads rest
      | some value, 0 => scanBase64 1 value 0 rest
      | some value, 1 =>
        (scanBase64 2 (value % 16) 0 rest).map (UInt8.ofNat (left * 4 + value / 16) :: ·)
      | some value, 2 =>
        (scanBase64 3 (value % 4) 0 rest).map (UInt8.ofNat (left * 16 + value / 4) :: ·)
      | some value, _ => (scanBase64 0 0 0 rest).map (UInt8.ofNat (left * 64 + value) :: ·)

/-- `base64.b64decode` of a string, which has to be ASCII. -/
def b64decode (text : Text) : Option Bytes :=
  if text.all fun char => char.toNat < 128 then scanBase64 0 0 0 text else none

/-- A character of the alphabet has the value it was written for, is no padding, and is ASCII. -/
theorem b64Char_spec {value : Nat} (bound : value < 64) :
    b64Value (b64Char value) = some value ∧ b64Char value ≠ '=' ∧ (b64Char value).toNat < 128 := by
  have every : ∀ value < 64, b64Value (b64Char value) = some value ∧ b64Char value ≠ '=' ∧
      (b64Char value).toNat < 128 := by decide
  exact every value bound

/-- A character of the alphabet is ASCII. -/
theorem b64Char_ascii {value : Nat} (bound : value < 64) : (b64Char value).toNat < 128 :=
  (b64Char_spec bound).2.2

section Groups

variable {value left pads : Nat} (bound : value < 64) (rest : Text)
include bound

/-- The first character of a group leaves six bits over. -/
theorem scanBase64_first :
    scanBase64 0 left pads (b64Char value :: rest) = scanBase64 1 value 0 rest := by
  obtain ⟨found, inside, -⟩ := b64Char_spec bound
  simp only [scanBase64, if_neg inside, found]

/-- The second character of a group completes a byte. -/
theorem scanBase64_second :
    scanBase64 1 left pads (b64Char value :: rest) =
      (scanBase64 2 (value % 16) 0 rest).map (UInt8.ofNat (left * 4 + value / 16) :: ·) := by
  obtain ⟨found, inside, -⟩ := b64Char_spec bound
  simp only [scanBase64, if_neg inside, found]

/-- The third character of a group completes a byte. -/
theorem scanBase64_third :
    scanBase64 2 left pads (b64Char value :: rest) =
      (scanBase64 3 (value % 4) 0 rest).map (UInt8.ofNat (left * 16 + value / 4) :: ·) := by
  obtain ⟨found, inside, -⟩ := b64Char_spec bound
  simp only [scanBase64, if_neg inside, found]

/-- The fourth character of a group completes a byte and leaves nothing over. -/
theorem scanBase64_fourth :
    scanBase64 3 left pads (b64Char value :: rest) =
      (scanBase64 0 0 0 rest).map (UInt8.ofNat (left * 64 + value) :: ·) := by
  obtain ⟨found, inside, -⟩ := b64Char_spec bound
  simp only [scanBase64, if_neg inside, found]

end Groups

/-- The loop reads an encoding to its end, from any padding seen before it. -/
theorem scanBase64_encode (data : Bytes) : scanBase64 0 0 0 (b64encode data) = some data := by
  induction data using b64encode.induct with
  | case1 => rfl
  | case2 first =>
    have one := first.toNat_lt
    have joined : first.toNat / 4 * 4 + first.toNat % 4 * 16 / 16 = first.toNat := by omega
    rw [b64encode, scanBase64_first (by omega), scanBase64_second (by omega), joined]
    simp [scanBase64]
  | case3 first second =>
    have one := first.toNat_lt
    have two := second.toNat_lt
    have joined : first.toNat / 4 * 4 + (first.toNat % 4 * 16 + second.toNat / 16) / 16 =
        first.toNat := by omega
    have next : (first.toNat % 4 * 16 + second.toNat / 16) % 16 * 16 +
        second.toNat % 16 * 4 / 4 = second.toNat := by omega
    rw [b64encode, scanBase64_first (by omega), scanBase64_second (by omega),
      scanBase64_third (by omega), joined, next]
    simp [scanBase64]
  | case4 first second third rest ih =>
    have one := first.toNat_lt
    have two := second.toNat_lt
    have three := third.toNat_lt
    have joined : first.toNat / 4 * 4 + (first.toNat % 4 * 16 + second.toNat / 16) / 16 =
        first.toNat := by omega
    have next : (first.toNat % 4 * 16 + second.toNat / 16) % 16 * 16 +
        (second.toNat % 16 * 4 + third.toNat / 64) / 4 = second.toNat := by omega
    have last : (second.toNat % 16 * 4 + third.toNat / 64) % 4 * 64 + third.toNat % 64 =
        third.toNat := by omega
    rw [b64encode, List.cons_append, scanBase64_first (by omega), List.cons_append,
      scanBase64_second (by omega), List.cons_append, scanBase64_third (by omega),
      List.cons_append, scanBase64_fourth (by omega), List.nil_append, ih, joined, next, last]
    simp

/-- An encoding consists of the alphabet and the padding. -/
theorem mem_b64encode {data : Bytes} {char : Char} (listed : char ∈ b64encode data) :
    char = '=' ∨ ∃ value < 64, char = b64Char value := by
  induction data using b64encode.induct with
  | case1 => exact absurd listed List.not_mem_nil
  | case2 first =>
    have one := first.toNat_lt
    simp only [b64encode, List.mem_cons, List.not_mem_nil, or_false] at listed
    rcases listed with rfl | rfl | rfl | rfl
    · exact Or.inr ⟨_, by omega, rfl⟩
    · exact Or.inr ⟨_, by omega, rfl⟩
    · exact Or.inl rfl
    · exact Or.inl rfl
  | case3 first second =>
    have one := first.toNat_lt
    have two := second.toNat_lt
    simp only [b64encode, List.mem_cons, List.not_mem_nil, or_false] at listed
    rcases listed with rfl | rfl | rfl | rfl
    · exact Or.inr ⟨_, by omega, rfl⟩
    · exact Or.inr ⟨_, by omega, rfl⟩
    · exact Or.inr ⟨_, by omega, rfl⟩
    · exact Or.inl rfl
  | case4 first second third rest ih =>
    have one := first.toNat_lt
    have two := second.toNat_lt
    have three := third.toNat_lt
    simp only [b64encode, List.cons_append, List.nil_append, List.mem_cons] at listed
    rcases listed with rfl | rfl | rfl | rfl | later
    · exact Or.inr ⟨_, by omega, rfl⟩
    · exact Or.inr ⟨_, by omega, rfl⟩
    · exact Or.inr ⟨_, by omega, rfl⟩
    · exact Or.inr ⟨_, by omega, rfl⟩
    · exact ih later

/-- An encoding is ASCII. -/
theorem b64encode_ascii (data : Bytes) : ∀ char ∈ b64encode data, char.toNat < 128 := by
  intro char listed
  rcases mem_b64encode listed with rfl | ⟨value, bound, rfl⟩
  · decide
  · exact b64Char_ascii bound

/-- Decoding gives back the encoded bytes. -/
theorem b64decode_b64encode (data : Bytes) : b64decode (b64encode data) = some data := by
  have ascii : (b64encode data).all fun char => char.toNat < 128 := by
    simpa using b64encode_ascii data
  rw [b64decode, if_pos ascii, scanBase64_encode]

end Base64

section Unicode

/-- `text.encode("utf-8")`. -/
def utf8Encode (text : Text) : Bytes := text.flatMap String.utf8EncodeChar

/-- `data.decode()`; `none` when the bytes are no UTF-8. -/
def utf8Decode (data : Bytes) : Option Text :=
  data.toByteArray.utf8Decode?.map Array.toList

/-- What can be decoded is the encoding of the text. -/
theorem utf8Encode_of_utf8Decode {data : Bytes} {text : Text}
    (decoded : utf8Decode data = some text) : utf8Encode text = data := by
  obtain ⟨chars, found, rfl⟩ := Option.map_eq_some_iff.mp decoded
  have some : data.toByteArray.utf8Decode?.isSome := by rw [found]; rfl
  have same := ByteArray.utf8Encode_get_utf8Decode? (h := some)
  simp only [found, Option.get_some] at same
  have lists := congrArg (fun bytes => bytes.data.toList) same
  simpa [List.utf8Encode, utf8Encode] using lists

/-- An ASCII byte encodes its own character only. -/
theorem toNat_of_mem_utf8EncodeChar {char : Char} {byte : UInt8}
    (listed : byte ∈ String.utf8EncodeChar char) (ascii : byte.toNat < 128) :
    char.toNat = byte.toNat := by
  have value : char.val.toNat = char.toNat := rfl
  unfold String.utf8EncodeChar at listed
  simp only [value] at listed
  split at listed
  · rename_i single
    rw [List.mem_singleton.mp listed, UInt8.toNat_ofNat']
    omega
  · split at listed
    · simp only [List.mem_cons, List.not_mem_nil, or_false] at listed
      rcases listed with rfl | rfl <;> rw [UInt8.toNat_ofNat'] at ascii <;> omega
    · split at listed
      · simp only [List.mem_cons, List.not_mem_nil, or_false] at listed
        rcases listed with rfl | rfl | rfl <;> rw [UInt8.toNat_ofNat'] at ascii <;> omega
      · simp only [List.mem_cons, List.not_mem_nil, or_false] at listed
        rcases listed with rfl | rfl | rfl | rfl <;> rw [UInt8.toNat_ofNat'] at ascii <;> omega

/-- The character of an ASCII byte is in the decoded text. -/
theorem mem_of_utf8Decode {data : Bytes} {text : Text} (decoded : utf8Decode data = some text)
    {byte : UInt8} (listed : byte ∈ data) (ascii : byte.toNat < 128) :
    ∃ char ∈ text, char.toNat = byte.toNat := by
  rw [← utf8Encode_of_utf8Decode decoded, utf8Encode, List.mem_flatMap] at listed
  obtain ⟨char, inside, encoded⟩ := listed
  exact ⟨char, inside, toNat_of_mem_utf8EncodeChar encoded ascii⟩

/-- ASCII characters are encoded by one byte each. -/
theorem utf8Encode_ascii {text : Text} (ascii : ∀ char ∈ text, char.toNat < 128) :
    utf8Encode text = text.map fun char => UInt8.ofNat char.toNat := by
  induction text with
  | nil => rfl
  | cons char rest ih =>
    obtain ⟨first, others⟩ := List.forall_mem_cons.mp ascii
    have single : String.utf8EncodeChar char = [UInt8.ofNat char.toNat] := by
      have value : char.val.toNat = char.toNat := rfl
      have small : char.toNat ≤ 127 := by omega
      simp [String.utf8EncodeChar, value, small]
    have later := ih others
    rw [utf8Encode] at later ⊢
    rw [List.flatMap_cons, single, later]
    rfl

/-- The characters that ASCII bytes are decoded to are those of the bytes. -/
theorem mem_of_mem_utf8Decode {data : Bytes} {text : Text} (decoded : utf8Decode data = some text)
    (ascii : ∀ byte ∈ data, byte.toNat < 128) {char : Char} (listed : char ∈ text) :
    ∃ byte ∈ data, char.toNat = byte.toNat := by
  rw [← utf8Encode_of_utf8Decode decoded] at ascii ⊢
  obtain ⟨byte, inside⟩ :=
    List.exists_mem_of_ne_nil (String.utf8EncodeChar char) String.utf8EncodeChar_ne_nil
  have found : byte ∈ utf8Encode text := List.mem_flatMap.mpr ⟨char, listed, inside⟩
  exact ⟨byte, found, toNat_of_mem_utf8EncodeChar inside (ascii byte found)⟩

end Unicode

end DifyPlugin.Encoding
