import Mathlib.Data.List.Basic

/-!
# Transducers

A transducer reads one symbol at a time, changes its state and appends to its output. Fed in
pieces, it keeps nothing but its state between them, so the output is that of the pieces
joined together (`run_append`).
-/

namespace DifyPlugin.Transducer

variable {σ α β : Type}

/-- Read a sequence from a state: the state after it, and the output. -/
def run (step : σ → α → σ × List β) : σ → List α → σ × List β
  | state, [] => (state, [])
  | state, symbol :: rest =>
    let (next, output) := step state symbol
    let (last, later) := run step next rest
    (last, output ++ later)

/-- Reading a joined sequence reads its parts in turn. -/
theorem run_append (step : σ → α → σ × List β) (state : σ) (left right : List α) :
    run step state (left ++ right) =
      ((run step (run step state left).1 right).1,
        (run step state left).2 ++ (run step (run step state left).1 right).2) := by
  induction left generalizing state with
  | nil => simp [run]
  | cons symbol rest ih => simp [run, ih]

/-- A state in which nothing is written and nothing changes is never left. -/
theorem run_idle {step : σ → α → σ × List β} {state : σ}
    (idle : ∀ symbol, step state symbol = (state, [])) (symbols : List α) :
    run step state symbols = (state, []) := by
  induction symbols with
  | nil => rfl
  | cons symbol rest ih => simp [run, idle, ih]

end DifyPlugin.Transducer
