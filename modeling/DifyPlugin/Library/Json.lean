import DifyPlugin.Library.Str
import Mathlib.Algebra.Group.Nat.Defs

/-!
# Decoded JSON

The values that `json.loads` builds. Integers are unbounded; floating-point numbers are kept
open, as a type `ω` with the operations of `Floats` on it.
-/

namespace DifyPlugin

/-- A decoded JSON value. -/
inductive Json (ω : Type) where
  /-- `None`. -/
  | null
  /-- A `bool`. -/
  | bool (value : Bool)
  /-- An `int`. -/
  | int (value : Int)
  /-- A `float`. -/
  | float (value : ω)
  /-- A `str`. -/
  | str (value : Text)
  /-- A `list`. -/
  | list (items : List (Json ω))
  /-- A `dict`, by its items. -/
  | dict (items : List (Text × Json ω))

namespace Json

variable {ω : Type}

/-- The text of a string. -/
def asText : Json ω → Option Text
  | .str value => some value
  | _ => none

/-- The items of a dictionary. -/
def asItems : Json ω → Option (List (Text × Json ω))
  | .dict items => some items
  | _ => none

end Json

/-- An integer that `float` converts, below `2 ^ 1024 - 2 ^ 970`: a larger one raises
`OverflowError`. -/
def FitsFloat (value : Int) : Prop := value.natAbs < (2 ^ 194) ^ 5 * (2 ^ 54 - 1)

instance (value : Int) : Decidable (FitsFloat value) :=
  inferInstanceAs (Decidable (value.natAbs < (2 ^ 194) ^ 5 * (2 ^ 54 - 1)))

/-- The operations on floating-point numbers. -/
structure Floats (ω : Type) where
  /-- `math.isfinite`. -/
  isFinite : ω → Bool
  /-- `float(value)`, of an integer that fits. -/
  ofInt : Int → ω
  /-- `+`. -/
  add : ω → ω → ω
  /-- The integer of the same value, when there is one. -/
  toInt : ω → Option Int
  /-- An integer that fits becomes a finite number. -/
  finite : ∀ value, FitsFloat value → isFinite (ofInt value) = true

end DifyPlugin
