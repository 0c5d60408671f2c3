import Mathlib.Data.Rat.Floor
import Mathlib.Tactic.FieldSimp

/-!
# Numbers taken as exact

A number of Python, be it an integer or a float, is taken as the decimal number that is written:
it is compared and rounded as this number, and not as the nearest binary fraction that a float
holds in its place. The values of a float that are no rational numbers keep the order they have in
Python: nothing is less than a NaN, and a NaN is less than nothing.
-/

namespace DifyPlugin

/-- An `int` or a `float`. -/
inductive Number where
  /-- A rational value. -/
  | finite (value : ℚ)
  /-- An infinity. -/
  | infinite (negative : Bool)
  /-- Not a number. -/
  | nan
  deriving DecidableEq

namespace Number

/-- `left < right`. -/
def lt : Number → Number → Bool
  | .finite left, .finite right => left < right
  | .finite _, .infinite negative => !negative
  | .infinite negative, .finite _ => negative
  | .infinite left, .infinite right => left && !right
  | _, _ => false

/-- `left == right`. -/
def eq : Number → Number → Bool
  | .nan, _ => false
  | left, right => left = right

/-- The nearest integer, the even one of two that are equally near. -/
def roundHalfEven (value : ℚ) : ℤ :=
  if value - ⌊value⌋ < 1 / 2 then ⌊value⌋
  else if 1 / 2 < value - ⌊value⌋ then ⌊value⌋ + 1
  else ⌊value⌋ + ⌊value⌋ % 2

/-- `round(number, digits)`. -/
def roundTo (digits : ℤ) : Number → Number
  | .finite value => .finite (roundHalfEven (value * 10 ^ digits) / 10 ^ digits)
  | other => other

/-- `int(number)`, which drops the fraction; it fails when the number is not finite. -/
def toInt : Number → Option ℤ
  | .finite value => some (if value < 0 then ⌈value⌉ else ⌊value⌋)
  | _ => none

/-- A number of at most so many decimal places; a negative count asks for zeros before the
point. An infinity is no integer, and rounds to itself. -/
def HasPlaces (digits : ℤ) : Number → Prop
  | .finite value => ∃ count : ℤ, value * 10 ^ digits = count
  | .infinite _ => digits ≠ 0
  | .nan => False

/-- A number is not below another one; a NaN is not below anything, and nothing is below it. -/
def NotBelow : Number → Number → Prop
  | .finite number, .finite bound => bound ≤ number
  | .finite _, .infinite negative => negative = true
  | .infinite negative, .finite _ => negative = false
  | .infinite number, .infinite bound => number = true → bound = true
  | _, _ => True

/-- A number is less than another one when it is below it. -/
theorem lt_eq_false (number bound : Number) : number.lt bound = false ↔ number.NotBelow bound := by
  cases number <;> cases bound <;> simp [lt, NotBelow]

/-- An integer is its own rounding. -/
theorem roundHalfEven_intCast (count : ℤ) : roundHalfEven count = count := by
  simp [roundHalfEven]

/-- A power of ten is not zero. -/
theorem ten_zpow_ne_zero (digits : ℤ) : (10 : ℚ) ^ digits ≠ 0 := zpow_ne_zero digits (by decide)

/-- A number equals its rounding when it has no more decimal places. -/
theorem eq_roundTo (digits : ℤ) (nonzero : digits ≠ 0) (number : Number) :
    number.eq (number.roundTo digits) = true ↔ number.HasPlaces digits := by
  cases number with
  | nan => simp [eq, HasPlaces]
  | infinite negative => simp [eq, roundTo, HasPlaces, nonzero]
  | finite value =>
    have scale := ten_zpow_ne_zero digits
    simp only [eq, roundTo, HasPlaces, finite.injEq, decide_eq_true_eq, eq_div_iff scale]
    constructor
    · intro same
      exact ⟨_, same⟩
    · rintro ⟨count, whole⟩
      rw [whole, roundHalfEven_intCast]

/-- A number equals its integer part when it has no decimal places. -/
theorem eq_toInt (number : Number) :
    (∃ count, number.toInt = some count ∧ number.eq (.finite count) = true) ↔
      number.HasPlaces 0 := by
  cases number with
  | nan => simp [toInt, HasPlaces]
  | infinite negative => simp [toInt, HasPlaces]
  | finite value =>
    simp only [toInt, Option.some.injEq, eq, finite.injEq, decide_eq_true_eq, HasPlaces,
      zpow_zero, mul_one]
    constructor
    · rintro ⟨count, -, whole⟩
      exact ⟨count, whole⟩
    · rintro ⟨count, rfl⟩
      exact ⟨count, by simp, rfl⟩

end Number

end DifyPlugin
