import DifyPlugin.Library.Decoding
import Mathlib.Algebra.Order.Ring.Nat
import Mathlib.Tactic.Ring

/-!
# Big-endian numbers

`fromBytes` reads bytes as one number, the most significant byte first, and `toBytes` writes a
number in a given number of bytes. The two are inverse on the numbers that fit. `bitLength` says
where the leading bit of a number is.
-/

namespace DifyPlugin.BigEndian

open Decoding

/-- `int.from_bytes(data)`. -/
def fromBytes (data : Bytes) : Nat := data.foldl (fun value byte => value * 256 + byte.toNat) 0

/-- `value.to_bytes(width)`, of a value that fits. -/
def toBytes : Nat → Nat → Bytes
  | 0, _ => []
  | width + 1, value => UInt8.ofNat (value / 256 ^ width) :: toBytes width (value % 256 ^ width)

/-- `value.bit_length()`. -/
def bitLength (value : Nat) : Nat := if value = 0 then 0 else value.log2 + 1

/-- Bytes read after a value are read below it. -/
theorem foldl_bytes (data : Bytes) (value : Nat) :
    data.foldl (fun value byte => value * 256 + byte.toNat) value =
      value * 256 ^ data.length + fromBytes data := by
  induction data generalizing value with
  | nil => simp [fromBytes]
  | cons byte rest ih =>
    have tail := ih byte.toNat
    have whole := ih (value * 256 + byte.toNat)
    simp only [fromBytes, List.foldl_cons, Nat.zero_mul, Nat.zero_add, List.length_cons]
      at tail whole ⊢
    rw [whole, tail, Nat.pow_succ]
    ring

/-- The first byte is the most significant one. -/
theorem fromBytes_cons (byte : UInt8) (rest : Bytes) :
    fromBytes (byte :: rest) = byte.toNat * 256 ^ rest.length + fromBytes rest := by
  have below := foldl_bytes rest byte.toNat
  rw [← below, fromBytes, List.foldl_cons, Nat.zero_mul, Nat.zero_add]

/-- A number is below the power of its width. -/
theorem fromBytes_lt (data : Bytes) : fromBytes data < 256 ^ data.length := by
  induction data with
  | nil => exact Nat.one_pos
  | cons byte rest ih =>
    have bound := byte.toNat_lt
    have top : (byte.toNat + 1) * 256 ^ rest.length ≤ 256 * 256 ^ rest.length :=
      Nat.mul_le_mul_right _ (by omega)
    rw [fromBytes_cons, List.length_cons, Nat.pow_succ, Nat.mul_comm (256 ^ rest.length)]
    rw [Nat.add_mul, Nat.one_mul] at top
    omega

/-- A number is written in the given number of bytes. -/
@[simp] theorem length_toBytes (width value : Nat) : (toBytes width value).length = width := by
  induction width generalizing value with
  | zero => rfl
  | succ width ih => simp [toBytes, ih]

/-- Reading back gives the written number. -/
theorem fromBytes_toBytes {width value : Nat} (fits : value < 256 ^ width) :
    fromBytes (toBytes width value) = value := by
  induction width generalizing value with
  | zero =>
    have zero : value = 0 := by
      rw [Nat.pow_zero] at fits
      omega
    rw [zero]
    rfl
  | succ width ih =>
    have positive : 0 < 256 ^ width := Nat.pow_pos (by decide)
    have first : value / 256 ^ width < 256 := by
      rw [Nat.pow_succ, Nat.mul_comm] at fits
      exact Nat.div_lt_of_lt_mul (by rwa [Nat.mul_comm])
    have byte : (UInt8.ofNat (value / 256 ^ width)).toNat = value / 256 ^ width := by
      rw [UInt8.toNat_ofNat']
      exact Nat.mod_eq_of_lt first
    rw [toBytes, fromBytes_cons, length_toBytes, ih (Nat.mod_lt _ positive), byte]
    exact Nat.div_add_mod' value (256 ^ width)

/-- Different bytes of one width are different numbers. -/
theorem fromBytes_inj {data other : Bytes} (width : data.length = other.length)
    (same : fromBytes data = fromBytes other) : data = other := by
  induction data generalizing other with
  | nil => exact (List.length_eq_zero_iff.mp width.symm).symm
  | cons byte rest ih =>
    cases other with
    | nil => exact absurd width (by simp)
    | cons first others =>
      have tails : rest.length = others.length := Nat.succ.inj width
      rw [fromBytes_cons, fromBytes_cons, tails] at same
      have below := fromBytes_lt rest
      have belowOther := fromBytes_lt others
      rw [tails] at below
      have positive : 0 < 256 ^ others.length := Nat.pow_pos (by decide)
      have heads : byte.toNat = first.toNat := by
        have quotients := congrArg (· / 256 ^ others.length) same
        simpa [Nat.mul_comm _ (256 ^ others.length), Nat.mul_add_div positive,
          Nat.div_eq_of_lt below, Nat.div_eq_of_lt belowOther] using quotients
      have later : fromBytes rest = fromBytes others := by
        rw [heads] at same
        exact Nat.add_left_cancel same
      rw [UInt8.toNat_inj.mp heads, ih tails later]

/-- The leading bit of a number stands right below the power of its bit length. -/
theorem bitLength_eq {value length : Nat} (positive : 0 < length) :
    bitLength value = length ↔ 2 ^ (length - 1) ≤ value ∧ value < 2 ^ length := by
  by_cases zero : value = 0
  · have power : 0 < 2 ^ (length - 1) := Nat.pow_pos (by decide)
    simp only [bitLength, if_pos zero]
    omega
  · rw [bitLength, if_neg zero, ← Nat.le_log2 zero, ← Nat.log2_lt zero]
    omega

/-- A byte has at most eight bits. -/
theorem bitLength_byte (byte : UInt8) : bitLength byte.toNat ≤ 8 := by
  have bound : byte.toNat < 2 ^ 8 := byte.toNat_lt
  by_cases zero : byte.toNat = 0
  · simp [bitLength, zero]
  · rw [bitLength, if_neg zero]
    exact (Nat.log2_lt zero).mpr bound

end DifyPlugin.BigEndian
