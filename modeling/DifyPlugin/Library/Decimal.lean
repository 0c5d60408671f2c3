import Mathlib.Algebra.Order.Field.Basic
import Mathlib.Algebra.Order.Field.Power
import Mathlib.Algebra.Order.Field.Rat
import Mathlib.Algebra.Order.Round
import Mathlib.Data.Nat.Log
import Mathlib.Data.Rat.Floor
import Mathlib.Tactic.FieldSimp
import Mathlib.Tactic.Linarith
import Mathlib.Tactic.Positivity
import Mathlib.Tactic.Ring

/-!
# Decimal arithmetic

Finite decimal numbers with the arithmetic of a context: every result is rounded to `precision`
significant digits, half to even, and `quantize` rounds half up to a fixed exponent. `RoundsTo`
and `round` say what the two do to the values; from there rounding keeps the order, and its error
is bounded.
-/

namespace DifyPlugin.Decimals

/-- A finite number, `coefficient * 10 ^ exponent`. -/
structure Decimal where
  /-- The digits, with the sign. -/
  coefficient : Int
  /-- The exponent. -/
  exponent : Int
  deriving DecidableEq

/-- The value of a number. -/
def Decimal.value (number : Decimal) : ℚ := number.coefficient * (10 : ℚ) ^ number.exponent

/-- An integer as a number. -/
def Decimal.ofInt (number : Int) : Decimal := ⟨number, 0⟩

/-- How many digits a magnitude has. -/
def digits (magnitude : Nat) : Nat := Nat.log 10 magnitude + 1

/-- `ROUND_HALF_EVEN`, of the multiples of a unit. -/
def halfEven (magnitude unit : Nat) : Nat :=
  if 2 * (magnitude % unit) < unit ∨ 2 * (magnitude % unit) = unit ∧ magnitude / unit % 2 = 0 then
    magnitude / unit
  else magnitude / unit + 1

/-- `ROUND_HALF_UP`, of the multiples of a unit. -/
def halfUp (magnitude unit : Nat) : Nat :=
  if 2 * (magnitude % unit) < unit then magnitude / unit else magnitude / unit + 1

/-- What a context does with a result: digits beyond its precision are dropped, and one more
when all that are left carry. -/
def fix (precision : Nat) (number : Decimal) : Decimal :=
  let magnitude := number.coefficient.natAbs
  let drop := digits magnitude - precision
  let rounded := halfEven magnitude (10 ^ drop)
  if rounded < 10 ^ precision then
    ⟨number.coefficient.sign * rounded, number.exponent + drop⟩
  else ⟨number.coefficient.sign * 10 ^ (precision - 1), number.exponent + drop + 1⟩

/-- A product. -/
def mul (precision : Nat) (left right : Decimal) : Decimal :=
  fix precision ⟨left.coefficient * right.coefficient, left.exponent + right.exponent⟩

/-- A sum, at the smaller exponent. -/
def add (precision : Nat) (left right : Decimal) : Decimal :=
  let exponent := min left.exponent right.exponent
  fix precision
    ⟨left.coefficient * 10 ^ (left.exponent - exponent).toNat +
      right.coefficient * 10 ^ (right.exponent - exponent).toNat, exponent⟩

/-- `quantize` with `ROUND_HALF_UP`; `none` for its `InvalidOperation`. -/
def quantize (precision : Nat) (number : Decimal) (exponent : Int) : Option Decimal :=
  let coefficient :=
    if exponent ≤ number.exponent then
      number.coefficient * 10 ^ (number.exponent - exponent).toNat
    else
      number.coefficient.sign *
        halfUp number.coefficient.natAbs (10 ^ (exponent - number.exponent).toNat)
  if digits coefficient.natAbs ≤ precision then some ⟨coefficient, exponent⟩ else none

/-! ## Rounding of values -/

/-- A multiple of a unit that is nearest to a value, and even when two are. -/
structure Nearest (unit exact : ℚ) (multiple : ℤ) : Prop where
  /-- It is at most half a unit below. -/
  lower : exact - unit / 2 ≤ multiple * unit
  /-- It is at most half a unit above. -/
  upper : multiple * unit ≤ exact + unit / 2
  /-- A tie goes to the even multiple. -/
  tie : exact - unit / 2 = multiple * unit ∨ multiple * unit = exact + unit / 2 → Even multiple

/-- A value that is not negative, rounded to `precision` significant digits. -/
def RoundsTo (precision : Nat) (exact rounded : ℚ) : Prop :=
  exact = 0 ∧ rounded = 0 ∨ ∃ magnitude multiple : ℤ,
    (10 : ℚ) ^ magnitude ≤ exact ∧ exact < (10 : ℚ) ^ (magnitude + 1) ∧
      Nearest ((10 : ℚ) ^ (magnitude + 1 - precision)) exact multiple ∧
      rounded = multiple * (10 : ℚ) ^ (magnitude + 1 - precision)

section Values

variable {precision : Nat} {unit exact exact' rounded rounded' : ℚ} {multiple multiple' : ℤ}

/-- Scaling keeps the nearest multiple. -/
theorem Nearest.scale (nearest : Nearest unit exact multiple) {factor : ℚ} (positive : 0 < factor) :
    Nearest (unit * factor) (exact * factor) multiple where
  lower := by
    have scaled := mul_le_mul_of_nonneg_right nearest.lower positive.le
    linarith
  upper := by
    have scaled := mul_le_mul_of_nonneg_right nearest.upper positive.le
    linarith
  tie := by
    intro ties
    apply nearest.tie
    rcases ties with below | above
    · refine Or.inl (mul_right_cancel₀ positive.ne' ?_)
      linarith
    · refine Or.inr (mul_right_cancel₀ positive.ne' ?_)
      linarith

/-- A multiple is nearest to itself. -/
theorem nearest_self (positive : 0 < unit) (multiple : ℤ) :
    Nearest unit (multiple * unit) multiple where
  lower := by linarith
  upper := by linarith
  tie := by
    intro ties
    rcases ties with below | above
    · exact absurd below (by linarith)
    · exact absurd above (by linarith)

/-- A larger value has no smaller nearest multiple. -/
theorem Nearest.mono (positive : 0 < unit) (nearest : Nearest unit exact multiple)
    (nearest' : Nearest unit exact' multiple') (le : exact ≤ exact') : multiple ≤ multiple' := by
  by_contra above
  have next : multiple' + 1 ≤ multiple := by omega
  have apart : ((multiple' : ℚ) + 1) * unit ≤ multiple * unit := by
    refine mul_le_mul_of_nonneg_right ?_ positive.le
    exact_mod_cast next
  have upper := nearest.upper
  have lower := nearest'.lower
  -- Both are ties of one value, and neighbours are not both even.
  have tie : multiple * unit = exact + unit / 2 := by linarith
  have tie' : exact' - unit / 2 = multiple' * unit := by linarith
  have even := nearest.tie (Or.inr tie)
  have even' := nearest'.tie (Or.inl tie')
  have same : ((multiple' : ℚ) + 1) * unit = multiple * unit := by linarith
  have neighbour : (multiple' : ℚ) + 1 = multiple := mul_right_cancel₀ positive.ne' same
  have equal : multiple' + 1 = multiple := by exact_mod_cast neighbour
  rw [← equal] at even
  exact Int.not_even_iff_odd.mpr even'.add_one even

/-- A value between two multiples is rounded to something between them. -/
theorem Nearest.between (positive : 0 < unit) (nearest : Nearest unit exact multiple)
    (bound : ℤ) : (exact ≤ bound * unit → multiple ≤ bound) ∧
      (bound * unit ≤ exact → bound ≤ multiple) :=
  ⟨nearest.mono positive (nearest_self positive bound),
    (nearest_self positive bound).mono positive nearest⟩

/-- A power of ten is a multiple of the smaller ones. -/
theorem zpow_eq_mul (small : ℤ) (more : Nat) :
    (10 : ℚ) ^ (small + more) = ((10 ^ more : ℤ) : ℚ) * (10 : ℚ) ^ small := by
  rw [zpow_add₀ (by norm_num), zpow_natCast]
  push_cast
  ring

/-- Rounding to digits stays between the powers of ten around the value. -/
theorem rounded_between (some : 0 < precision) {magnitude : ℤ}
    (least : (10 : ℚ) ^ magnitude ≤ exact) (most : exact < (10 : ℚ) ^ (magnitude + 1))
    (nearest : Nearest ((10 : ℚ) ^ (magnitude + 1 - precision)) exact multiple) :
    (10 : ℚ) ^ magnitude ≤ multiple * (10 : ℚ) ^ (magnitude + 1 - precision) ∧
      multiple * (10 : ℚ) ^ (magnitude + 1 - precision) ≤ (10 : ℚ) ^ (magnitude + 1) := by
  have positive : (0 : ℚ) < (10 : ℚ) ^ (magnitude + 1 - precision) := by positivity
  have low := zpow_eq_mul (magnitude + 1 - precision) (precision - 1)
  have high := zpow_eq_mul (magnitude + 1 - precision) precision
  rw [show magnitude + 1 - (precision : ℤ) + (precision - 1 : ℕ) = magnitude by omega] at low
  rw [show magnitude + 1 - (precision : ℤ) + (precision : ℕ) = magnitude + 1 by omega] at high
  constructor
  · rw [low] at least ⊢
    have above := (nearest.between positive _).2 least
    exact mul_le_mul_of_nonneg_right (by exact_mod_cast above) positive.le
  · rw [high] at most ⊢
    have below := (nearest.between positive _).1 most.le
    exact mul_le_mul_of_nonneg_right (by exact_mod_cast below) positive.le

/-- Rounding gives nothing negative. -/
theorem RoundsTo.nonneg (some : 0 < precision) (rounds : RoundsTo precision exact rounded) :
    0 ≤ rounded := by
  rcases rounds with ⟨-, rfl⟩ | ⟨magnitude, multiple, least, most, nearest, rfl⟩
  · exact le_rfl
  · have above := (rounded_between some least most nearest).1
    exact le_trans (by positivity) above

/-- Rounding keeps the order. -/
theorem RoundsTo.mono (some : 0 < precision) (rounds : RoundsTo precision exact rounded)
    (rounds' : RoundsTo precision exact' rounded') (le : exact ≤ exact') :
    rounded ≤ rounded' := by
  have nonneg := rounds'.nonneg some
  rcases rounds with ⟨-, rfl⟩ | ⟨magnitude, multiple, least, most, nearest, rfl⟩
  · exact nonneg
  · rcases rounds' with ⟨rfl, -⟩ | ⟨magnitude', multiple', least', most', nearest', rfl⟩
    · exact absurd (lt_of_lt_of_le (by positivity) least) (not_lt.mpr le)
    · have ordered : magnitude < magnitude' + 1 :=
        (zpow_lt_zpow_iff_right₀ (by norm_num)).mp
          (lt_of_le_of_lt least (lt_of_le_of_lt le most'))
      rcases lt_or_eq_of_le (Int.lt_add_one_iff.mp ordered) with smaller | rfl
      · have below := (rounded_between some least most nearest).2
        have above := (rounded_between some least' most' nearest').1
        have step : (10 : ℚ) ^ (magnitude + 1) ≤ (10 : ℚ) ^ magnitude' :=
          zpow_le_zpow_right₀ (by norm_num) smaller
        exact below.trans (step.trans above)
      · have positive : (0 : ℚ) < (10 : ℚ) ^ (magnitude + 1 - precision) := by positivity
        have multiples := nearest.mono positive nearest' le
        exact mul_le_mul_of_nonneg_right (by exact_mod_cast multiples) positive.le

/-- The error of rounding, relative to the value. -/
theorem RoundsTo.error (rounds : RoundsTo precision exact rounded) :
    |rounded - exact| ≤ exact * (10 : ℚ) ^ (1 - precision : ℤ) / 2 := by
  rcases rounds with ⟨rfl, rfl⟩ | ⟨magnitude, multiple, least, most, nearest, rfl⟩
  · simp
  · have unit :
        (10 : ℚ) ^ (magnitude + 1 - precision) ≤ exact * (10 : ℚ) ^ (1 - precision : ℤ) := by
      rw [show magnitude + 1 - (precision : ℤ) = magnitude + (1 - precision) by ring,
        zpow_add₀ (by norm_num)]
      exact mul_le_mul_of_nonneg_right least (by positivity)
    rw [abs_le]
    have lower := nearest.lower
    have upper := nearest.upper
    constructor <;> linarith

end Values

/-! ## Rounding of numbers -/

section Numbers

variable {precision : Nat} {number result : Decimal}

/-- `ROUND_HALF_EVEN` finds the nearest multiple. -/
theorem nearest_halfEven (magnitude : Nat) {unit : Nat} (positive : 0 < unit) :
    Nearest unit magnitude (halfEven magnitude unit) := by
  have split := Nat.div_add_mod magnitude unit
  have small := Nat.mod_lt magnitude positive
  rw [halfEven]
  generalize magnitude / unit = whole at *
  generalize magnitude % unit = rest at *
  have exact : (magnitude : ℚ) = whole * unit + rest := by
    rw [← split]
    push_cast
    ring
  have visible : (0 : ℚ) < unit := by exact_mod_cast positive
  rw [exact]
  split
  · rename_i down
    have half : (2 * rest : ℚ) ≤ unit := by
      have : 2 * rest ≤ unit := by omega
      exact_mod_cast this
    have present : (0 : ℚ) ≤ rest := Nat.cast_nonneg rest
    refine ⟨?_, ?_, ?_⟩
    · push_cast
      linarith
    · push_cast
      linarith
    · push_cast
      intro ties
      have tie : (2 * rest : ℚ) = unit := by rcases ties with below | above <;> linarith
      have equal : 2 * rest = unit := by exact_mod_cast tie
      have even : whole % 2 = 0 := by omega
      exact (Int.even_coe_nat whole).mpr (Nat.even_iff.mpr even)
  · rename_i up
    have half : (unit : ℚ) ≤ 2 * rest := by
      have : unit ≤ 2 * rest := by omega
      exact_mod_cast this
    have below : (rest : ℚ) < unit := by exact_mod_cast small
    refine ⟨?_, ?_, ?_⟩
    · push_cast
      linarith
    · push_cast
      linarith
    · push_cast
      intro ties
      have tie : (2 * rest : ℚ) = unit := by rcases ties with below | above <;> linarith
      have equal : 2 * rest = unit := by exact_mod_cast tie
      have odd : ¬Even whole := fun even => up (Or.inr ⟨equal, Nat.even_iff.mp even⟩)
      exact_mod_cast (Nat.not_even_iff_odd.mp odd).add_one

/-- `ROUND_HALF_UP` is `round`. -/
theorem halfUp_eq_round (magnitude : Nat) {unit : Nat} (positive : 0 < unit) :
    (halfUp magnitude unit : ℤ) = round ((magnitude : ℚ) / unit) := by
  have split := Nat.div_add_mod magnitude unit
  have small := Nat.mod_lt magnitude positive
  rw [halfUp]
  generalize magnitude / unit = whole at *
  generalize magnitude % unit = rest at *
  have visible : (0 : ℚ) < unit := by exact_mod_cast positive
  have exact : (magnitude : ℚ) / unit = whole + rest / unit := by
    rw [← split]
    push_cast
    field_simp
  have present : (0 : ℚ) ≤ rest / unit := by positivity
  rw [exact]
  symm
  rw [round_eq_iff, Set.mem_Ico]
  split
  · rename_i down
    have half : (rest : ℚ) / unit < 1 / 2 := by
      rw [div_lt_div_iff₀ visible (by norm_num)]
      exact_mod_cast (by omega : rest * 2 < 1 * unit)
    constructor
    · push_cast
      linarith
    · push_cast
      linarith
  · rename_i up
    have half : 1 / 2 ≤ (rest : ℚ) / unit := by
      rw [div_le_div_iff₀ (by norm_num) visible]
      exact_mod_cast (by omega : 1 * unit ≤ rest * 2)
    have below : (rest : ℚ) / unit < 1 := by
      rw [div_lt_one visible]
      exact_mod_cast small
    constructor
    · push_cast
      linarith
    · push_cast
      linarith

/-- A magnitude lies between the powers of ten of its digits. -/
theorem digits_between {magnitude : Nat} (some : magnitude ≠ 0) :
    10 ^ (digits magnitude - 1) ≤ magnitude ∧ magnitude < 10 ^ digits magnitude :=
  ⟨Nat.pow_log_le_self 10 some, Nat.lt_pow_succ_log_self (by decide) magnitude⟩

/-- One unit divides everything. -/
theorem halfEven_one (magnitude : Nat) : halfEven magnitude 1 = magnitude := by
  simp [halfEven, Nat.mod_one]

/-- Rounding to the digits of a context carries at most to one more digit. -/
theorem halfEven_le (precision : Nat) {magnitude : Nat} (visible : magnitude ≠ 0) :
    halfEven magnitude (10 ^ (digits magnitude - precision)) ≤ 10 ^ precision := by
  obtain ⟨-, most⟩ := digits_between visible
  have positive : (0 : ℚ) < ((10 ^ (digits magnitude - precision) : ℕ) : ℚ) := by positivity
  have nearest := nearest_halfEven magnitude
    (Nat.pow_pos (by decide) : 0 < 10 ^ (digits magnitude - precision))
  have within : (magnitude : ℚ) ≤
      ((10 ^ precision : ℕ) : ℤ) * ((10 ^ (digits magnitude - precision) : ℕ) : ℚ) := by
    have fits : magnitude ≤ 10 ^ precision * 10 ^ (digits magnitude - precision) := by
      rw [← Nat.pow_add]
      exact most.le.trans (Nat.pow_le_pow_right (by decide) (by omega))
    exact_mod_cast fits
  exact_mod_cast (nearest.between positive _).1 within

/-- The value of a result that is not negative: its magnitude, rounded. -/
theorem fix_value (some : 0 < precision) (magnitude : Nat) (exponent : ℤ) :
    (fix precision ⟨magnitude, exponent⟩).value =
        halfEven magnitude (10 ^ (digits magnitude - precision)) *
          (10 : ℚ) ^ (exponent + (digits magnitude - precision : ℕ)) ∧
      0 ≤ (fix precision ⟨magnitude, exponent⟩).coefficient := by
  rcases Nat.eq_zero_or_pos magnitude with rfl | visible
  · have zero : halfEven 0 (10 ^ (digits 0 - precision)) = 0 := by simp [halfEven]
    simp [fix, Decimal.value, zero]
  · have sign : Int.sign (magnitude : ℤ) = 1 := Int.sign_eq_one_of_pos (by exact_mod_cast visible)
    rw [fix]
    simp only [Int.natAbs_natCast, sign, one_mul]
    split
    · exact ⟨by simp [Decimal.value], by positivity⟩
    · rename_i carried
      have all := le_antisymm (halfEven_le precision visible.ne') (Nat.not_lt.mp carried)
      refine ⟨?_, by positivity⟩
      obtain ⟨less, rfl⟩ : ∃ less, precision = less + 1 := ⟨precision - 1, by omega⟩
      rw [all, Decimal.value, Nat.add_sub_cancel]
      simp only
      rw [zpow_add_one₀ (by norm_num)]
      push_cast
      ring

/-- The value of a result is its exact value, rounded to the digits of the context. -/
theorem fix_roundsTo (some : 0 < precision) (nonneg : 0 ≤ number.coefficient) :
    RoundsTo precision number.value (fix precision number).value ∧
      0 ≤ (fix precision number).coefficient := by
  obtain ⟨coefficient, exponent⟩ := number
  obtain ⟨magnitude, rfl⟩ := Int.eq_ofNat_of_zero_le nonneg
  obtain ⟨value, still⟩ := fix_value some magnitude exponent
  refine ⟨?_, still⟩
  rw [value]
  rcases Nat.eq_zero_or_pos magnitude with rfl | visible
  · refine Or.inl ⟨by simp [Decimal.value], by simp [halfEven]⟩
  · obtain ⟨least, most⟩ := digits_between visible.ne'
    have positive : (0 : ℚ) < (10 : ℚ) ^ exponent := by positivity
    have counted : 0 < digits magnitude := Nat.succ_pos _
    refine Or.inr ⟨exponent + (digits magnitude - 1 : ℕ), ?_⟩
    have next : exponent + ((digits magnitude - 1 : ℕ) : ℤ) + 1 =
        exponent + (digits magnitude : ℕ) := by omega
    rw [next, zpow_eq_mul, zpow_eq_mul, Decimal.value]
    have bounds : (((10 ^ (digits magnitude - 1) : ℤ) : ℚ) * (10 : ℚ) ^ exponent ≤
          (magnitude : ℤ) * (10 : ℚ) ^ exponent) ∧
        (((magnitude : ℤ) : ℚ) * (10 : ℚ) ^ exponent <
          ((10 ^ digits magnitude : ℤ) : ℚ) * (10 : ℚ) ^ exponent) :=
      ⟨mul_le_mul_of_nonneg_right (by exact_mod_cast least) positive.le,
        mul_lt_mul_of_pos_right (by exact_mod_cast most) positive⟩
    rcases Nat.le_total (digits magnitude) precision with fits | drops
    · -- All digits fit, and the value is a multiple of the last unit.
      have unit : (10 : ℚ) ^ exponent =
          ((10 ^ (precision - digits magnitude) : ℤ) : ℚ) *
            (10 : ℚ) ^ (exponent + (digits magnitude : ℕ) - (precision : ℤ)) := by
        rw [← zpow_eq_mul]
        congr 1
        omega
      have whole : ((magnitude : ℤ) : ℚ) * (10 : ℚ) ^ exponent =
          (((magnitude : ℤ) * 10 ^ (precision - digits magnitude) : ℤ) : ℚ) *
            (10 : ℚ) ^ (exponent + (digits magnitude : ℕ) - (precision : ℤ)) := by
        rw [unit]
        push_cast
        ring
      refine ⟨(magnitude : ℤ) * 10 ^ (precision - digits magnitude), bounds.1, bounds.2, ?_, ?_⟩
      · rw [whole]
        exact nearest_self (by positivity) _
      · rw [← whole, Nat.sub_eq_zero_of_le fits, pow_zero, halfEven_one]
        simp
    · have unit : (10 : ℚ) ^ (exponent + (digits magnitude : ℕ) - (precision : ℤ)) =
          ((10 ^ (digits magnitude - precision) : ℕ) : ℚ) * (10 : ℚ) ^ exponent := by
        have power := zpow_eq_mul exponent (digits magnitude - precision)
        rw [show exponent + ((digits magnitude - precision : ℕ) : ℤ) =
          exponent + (digits magnitude : ℕ) - (precision : ℤ) by omega] at power
        rw [power]
        push_cast
        ring
      have nearest := (nearest_halfEven magnitude
        (Nat.pow_pos (by decide) : 0 < 10 ^ (digits magnitude - precision))).scale positive
      rw [← unit] at nearest
      refine ⟨halfEven magnitude (10 ^ (digits magnitude - precision)), bounds.1, bounds.2,
        by exact_mod_cast nearest, ?_⟩
      rw [show exponent + ((digits magnitude - precision : ℕ) : ℤ) =
        exponent + (digits magnitude : ℕ) - (precision : ℤ) by omega]
      push_cast
      ring

/-- The digits fit into a context when the magnitude is below its power of ten. -/
theorem digits_le_iff (some : 0 < precision) (magnitude : Nat) :
    digits magnitude ≤ precision ↔ magnitude < 10 ^ precision := by
  rcases Nat.eq_zero_or_pos magnitude with rfl | visible
  · have one : digits 0 = 1 := by simp [digits]
    have least : 0 < 10 ^ precision := Nat.pow_pos (by decide)
    omega
  · exact Nat.log_lt_iff_lt_pow (by decide) visible.ne'

/-- The multiple that `quantize` finds. -/
theorem quantized_eq_round (magnitude : Nat) (exponent target : ℤ) :
    (if target ≤ exponent then (magnitude : ℤ) * 10 ^ (exponent - target).toNat
      else Int.sign magnitude * halfUp magnitude (10 ^ (target - exponent).toNat)) =
      round ((magnitude : ℚ) * (10 : ℚ) ^ exponent / (10 : ℚ) ^ target) := by
  split
  · rename_i finer
    have power := zpow_eq_mul target (exponent - target).toNat
    rw [show target + ((exponent - target).toNat : ℤ) = exponent by omega] at power
    rw [power, ← mul_assoc, mul_div_assoc, div_self (by positivity), mul_one]
    exact_mod_cast
      (round_intCast (α := ℚ) ((magnitude : ℤ) * 10 ^ (exponent - target).toNat)).symm
  · rename_i coarser
    have power := zpow_eq_mul exponent (target - exponent).toNat
    rw [show exponent + ((target - exponent).toNat : ℤ) = target by omega] at power
    have value : (magnitude : ℚ) * (10 : ℚ) ^ exponent / (10 : ℚ) ^ target =
        (magnitude : ℚ) / ((10 ^ (target - exponent).toNat : ℕ) : ℚ) := by
      rw [power, mul_div_mul_right _ _ (by positivity)]
      push_cast
      ring
    rw [value, ← halfUp_eq_round magnitude (Nat.pow_pos (by decide))]
    rcases Nat.eq_zero_or_pos magnitude with rfl | visible
    · simp [halfUp]
    · rw [Int.sign_eq_one_of_pos (by exact_mod_cast visible), one_mul]

/-- A number on another exponent: its value, rounded half up to a multiple of the unit. It fails
when the multiple has too many digits. -/
theorem quantize_value (some : 0 < precision) (nonneg : 0 ≤ number.coefficient) (exponent : ℤ) :
    quantize precision number exponent =
      if round (number.value / (10 : ℚ) ^ exponent) < (10 : ℤ) ^ precision then
        Option.some ⟨round (number.value / (10 : ℚ) ^ exponent), exponent⟩
      else none := by
  obtain ⟨coefficient, own⟩ := number
  obtain ⟨magnitude, rfl⟩ := Int.eq_ofNat_of_zero_le nonneg
  have found := quantized_eq_round magnitude own exponent
  have positive : 0 ≤ round ((magnitude : ℚ) * (10 : ℚ) ^ own / (10 : ℚ) ^ exponent) := by
    rw [round_eq]
    exact Int.floor_nonneg.mpr (by positivity)
  rw [quantize]
  simp only [Int.natAbs_natCast, Decimal.value]
  rw [found]
  have fits := digits_le_iff some
    (round ((magnitude : ℚ) * (10 : ℚ) ^ own / (10 : ℚ) ^ exponent)).natAbs
  have same : (round ((magnitude : ℚ) * (10 : ℚ) ^ own / (10 : ℚ) ^ exponent)).natAbs <
      10 ^ precision ↔
      round ((magnitude : ℚ) * (10 : ℚ) ^ own / (10 : ℚ) ^ exponent) < (10 : ℤ) ^ precision := by
    rw [← Int.natAbs_of_nonneg positive]
    exact_mod_cast Iff.rfl
  simp only [fits, same]
  rfl

/-- A number that is not negative. -/
def Decimal.Nonneg (number : Decimal) : Prop := 0 ≤ number.coefficient

instance (number : Decimal) : Decidable number.Nonneg :=
  inferInstanceAs (Decidable (0 ≤ number.coefficient))

/-- A number that is not negative has such a value. -/
theorem Decimal.Nonneg.value (nonneg : number.Nonneg) : 0 ≤ number.value := by
  have coefficient : (0 : ℚ) ≤ number.coefficient := by exact_mod_cast nonneg
  rw [Decimal.value]
  positivity

/-- An integer has its value. -/
theorem value_ofInt (whole : Int) : (Decimal.ofInt whole).value = whole := by
  simp [Decimal.ofInt, Decimal.value]

/-- A product is the exact one, rounded. -/
theorem mul_roundsTo (some : 0 < precision) {left right : Decimal} (one : left.Nonneg)
    (two : right.Nonneg) :
    RoundsTo precision (left.value * right.value) (mul precision left right).value ∧
      (mul precision left right).Nonneg := by
  have nonneg : 0 ≤ left.coefficient * right.coefficient := Int.mul_nonneg one two
  have value : Decimal.value
      ⟨left.coefficient * right.coefficient, left.exponent + right.exponent⟩ =
      left.value * right.value := by
    simp only [Decimal.value]
    rw [zpow_add₀ (by norm_num)]
    push_cast
    ring
  rw [← value]
  exact @fix_roundsTo precision
    ⟨left.coefficient * right.coefficient, left.exponent + right.exponent⟩ some nonneg

/-- A number at a smaller exponent. -/
theorem value_align (number : Decimal) {exponent : ℤ} (le : exponent ≤ number.exponent) :
    ((number.coefficient * 10 ^ (number.exponent - exponent).toNat : ℤ) : ℚ) *
      (10 : ℚ) ^ exponent = number.value := by
  have power := zpow_eq_mul exponent (number.exponent - exponent).toNat
  rw [show exponent + ((number.exponent - exponent).toNat : ℤ) = number.exponent by omega] at power
  rw [Decimal.value, power]
  push_cast
  ring

/-- A sum is the exact one, rounded. -/
theorem add_roundsTo (some : 0 < precision) {left right : Decimal} (one : left.Nonneg)
    (two : right.Nonneg) :
    RoundsTo precision (left.value + right.value) (add precision left right).value ∧
      (add precision left right).Nonneg := by
  have first := value_align left (Int.min_le_left left.exponent right.exponent)
  have second := value_align right (Int.min_le_right left.exponent right.exponent)
  have nonneg : 0 ≤
      left.coefficient * 10 ^ (left.exponent - min left.exponent right.exponent).toNat +
      right.coefficient * 10 ^ (right.exponent - min left.exponent right.exponent).toNat :=
    Int.add_nonneg (Int.mul_nonneg one (by positivity)) (Int.mul_nonneg two (by positivity))
  have rounds := @fix_roundsTo precision
    ⟨left.coefficient * 10 ^ (left.exponent - min left.exponent right.exponent).toNat +
      right.coefficient * 10 ^ (right.exponent - min left.exponent right.exponent).toNat,
      min left.exponent right.exponent⟩ some nonneg
  rw [← first, ← second, ← add_mul, ← Int.cast_add]
  exact rounds

/-- What `quantize` gives: a multiple of the unit at most half a unit away. -/
theorem quantize_some (some : 0 < precision) (nonneg : number.Nonneg) {exponent : ℤ}
    (found : quantize precision number exponent = Option.some result) :
    result.Nonneg ∧ result.exponent = exponent ∧
      |result.value - number.value| ≤ (10 : ℚ) ^ exponent / 2 := by
  rw [quantize_value some nonneg exponent] at found
  split at found
  · obtain rfl := Option.some.inj found
    have unit : (0 : ℚ) < (10 : ℚ) ^ exponent := by positivity
    have value := nonneg.value
    refine ⟨?_, rfl, ?_⟩
    · change 0 ≤ round _
      rw [round_eq]
      exact Int.floor_nonneg.mpr (by positivity)
    · have near := abs_sub_round (number.value / (10 : ℚ) ^ exponent)
      have scaled : ((round (number.value / (10 : ℚ) ^ exponent) : ℤ) : ℚ) * (10 : ℚ) ^ exponent -
          number.value = -((number.value / (10 : ℚ) ^ exponent -
            round (number.value / (10 : ℚ) ^ exponent)) * (10 : ℚ) ^ exponent) := by
        field_simp
        ring
      rw [Decimal.value, scaled, abs_neg, abs_mul, abs_of_pos unit]
      have bound := mul_le_mul_of_nonneg_right near unit.le
      linarith
  · contradiction

/-- `quantize` keeps the order, and a number below one that it takes is taken too. -/
theorem quantize_mono (some : 0 < precision) {larger : Decimal} (nonneg : number.Nonneg)
    (nonneg' : larger.Nonneg) (le : number.value ≤ larger.value) {exponent : ℤ}
    (found : quantize precision larger exponent = Option.some result) :
    ∃ smaller, quantize precision number exponent = Option.some smaller ∧
      smaller.value ≤ result.value := by
  have unit : (0 : ℚ) < (10 : ℚ) ^ exponent := by positivity
  have ordered : round (number.value / (10 : ℚ) ^ exponent) ≤
      round (larger.value / (10 : ℚ) ^ exponent) := by
    rw [round_eq, round_eq]
    refine Int.floor_mono ?_
    have divided := div_le_div_of_nonneg_right le unit.le
    linarith
  rw [quantize_value some nonneg' exponent] at found
  split at found
  · rename_i fits
    obtain rfl := Option.some.inj found
    refine ⟨⟨round (number.value / (10 : ℚ) ^ exponent), exponent⟩, ?_, ?_⟩
    · rw [quantize_value some nonneg exponent, if_pos (lt_of_le_of_lt ordered fits)]
    · simp only [Decimal.value]
      exact mul_le_mul_of_nonneg_right (by exact_mod_cast ordered) unit.le
  · contradiction

end Numbers

end DifyPlugin.Decimals
