import Mathlib.Data.List.Basic

/-!
# Runs of a generator

A Python generator that is consumed to its end has yielded a list of values and then either
returned or raised. `Generated` records both, and `yield` puts a value in front of a later run.
-/

namespace DifyPlugin

/-- What a generator yielded, and the exception that ended it, if one did. -/
structure Generated (α ε : Type) where
  /-- The yielded values in order. -/
  yielded : List α
  /-- The exception, when the generator did not return. -/
  raised : Option ε
  deriving DecidableEq

namespace Generated

variable {α ε : Type}

/-- Return without yielding. -/
def finished : Generated α ε := ⟨[], none⟩

/-- Raise without yielding. -/
def raise (error : ε) : Generated α ε := ⟨[], some error⟩

/-- Yield a value, then go on. -/
def yield (value : α) (rest : Generated α ε) : Generated α ε :=
  ⟨value :: rest.yielded, rest.raised⟩

@[simp] theorem finished_yielded : (finished : Generated α ε).yielded = [] := rfl
@[simp] theorem finished_raised : (finished : Generated α ε).raised = none := rfl
@[simp] theorem raise_yielded (error : ε) : (raise error : Generated α ε).yielded = [] := rfl
@[simp] theorem raise_raised (error : ε) : (raise error : Generated α ε).raised = some error := rfl
@[simp] theorem yield_yielded (value : α) (rest : Generated α ε) :
    (yield value rest).yielded = value :: rest.yielded := rfl
@[simp] theorem yield_raised (value : α) (rest : Generated α ε) :
    (yield value rest).raised = rest.raised := rfl

end Generated

end DifyPlugin
