import DifyPlugin.Library.Str

/-!
# Validation field by field

A record is validated field by field, and the problems of all its fields are collected, each with
its place. An exception that is no problem of a field ends the validation at once. Data that was
dumped item by item, or field by field, is validated to what was dumped as soon as every item or
field is.
-/

namespace DifyPlugin

/-- A step into validated data. -/
inductive Place where
  /-- The value of a key. -/
  | key (key : Text)
  /-- An item of a list. -/
  | index (index : Nat)
  deriving DecidableEq

/-- The outcome of a validation; `π` is a problem. -/
inductive Validated (π α : Type) where
  /-- The data is accepted. -/
  | valid (value : α)
  /-- The problems, each with its place. -/
  | invalid (problems : List (List Place × π))
  /-- An exception that is not collected. -/
  | raised (message : Text)

namespace Validated

variable {π δ α β : Type}

/-- The result of an accepted validation, changed. -/
def map (change : α → β) : Validated π α → Validated π β
  | .valid value => .valid (change value)
  | .invalid problems => .invalid problems
  | .raised message => .raised message

/-- The next step of a validation, after an accepted one. -/
def andThen (first : Validated π α) (next : α → Validated π β) : Validated π β :=
  match first with
  | .valid value => next value
  | .invalid problems => .invalid problems
  | .raised message => .raised message

/-- A field beside earlier ones: the problems of both are collected. -/
def beside (earlier : Validated π (α → β)) (field : Validated π α) : Validated π β :=
  match earlier, field with
  | .raised message, _ => .raised message
  | _, .raised message => .raised message
  | .invalid problems, .invalid further => .invalid (problems ++ further)
  | .invalid problems, .valid _ => .invalid problems
  | .valid _, .invalid problems => .invalid problems
  | .valid build, .valid value => .valid (build value)

/-- The problems are those of a place. -/
def within (place : Place) : Validated π α → Validated π α
  | .invalid problems => .invalid (problems.map fun problem => (place :: problem.1, problem.2))
  | .valid value => .valid value
  | .raised message => .raised message

/-- One problem of the data itself. -/
def problem (problem : π) : Validated π α := .invalid [([], problem)]

/-- Validate the value of a key; without the key take the default, if there is one. -/
def field (missing : π) (validate : δ → Validated π α) (key : Text) (absent : Option α)
    (fields : List (Text × δ)) : Validated π α :=
  match fields.lookup key, absent with
  | some value, _ => within (.key key) (validate value)
  | none, some value => .valid value
  | none, none => within (.key key) (problem missing)

/-- Validate all items of a list, from a position on. -/
def items (validate : δ → Validated π α) : Nat → List δ → Validated π (List α)
  | _, [] => .valid []
  | index, item :: rest =>
    ((within (.index index) (validate item)).map List.cons).beside (items validate (index + 1) rest)

@[simp] theorem map_valid (change : α → β) (value : α) :
    (valid value : Validated π α).map change = valid (change value) := rfl

@[simp] theorem andThen_valid (value : α) (next : α → Validated π β) :
    (valid value).andThen next = next value := rfl

@[simp] theorem beside_valid (build : α → β) (value : α) :
    (valid build : Validated π (α → β)).beside (valid value) = valid (build value) := rfl

@[simp] theorem within_valid (place : Place) (value : α) :
    within place (valid value : Validated π α) = valid value := rfl

/-- A field whose value is accepted. -/
theorem field_valid {missing : π} {validate : δ → Validated π α} {key : Text}
    {absent : Option α} {fields : List (Text × δ)} {data : δ} {value : α}
    (listed : fields.lookup key = some data) (accepted : validate data = valid value) :
    field missing validate key absent fields = valid value := by
  simp only [field, listed, accepted, within_valid]

/-- Dumped items are validated to the items. -/
theorem items_map {validate : δ → Validated π α} {dump : α → δ} {values : List α}
    (accepted : ∀ value ∈ values, validate (dump value) = valid value) (index : Nat) :
    items validate index (values.map dump) = valid values := by
  induction values generalizing index with
  | nil => rfl
  | cons value rest ih =>
    have first : validate (dump value) = valid value := accepted value List.mem_cons_self
    have others : ∀ other ∈ rest, validate (dump other) = valid other := by
      intro other listed
      exact accepted other (List.mem_cons_of_mem value listed)
    rw [List.map_cons, items, first, ih others, within_valid, map_valid, beside_valid]

end Validated

end DifyPlugin
