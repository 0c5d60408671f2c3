import Mathlib.Data.List.Basic

/-!
# Accounting for deliveries

A message on its way to one subscriber has arrived, is pending at the dispatcher, waits in the
queue of the subscriber, or was taken by it. While the subscription lasts no message is lost:
what was taken, what waits and what is pending are together exactly what arrived. After it has
ended they are a beginning of it, so nothing was reordered, duplicated or made up.
-/

namespace DifyPlugin.Delivery

variable {α : Type}

/-- Where the messages are that arrived for a subscriber. -/
structure Accounted (subscribed : Prop) (arrived taken queued pending : List α) : Prop where
  /-- Nothing is reordered, duplicated or made up. -/
  ordered : taken ++ queued ++ pending <+: arrived
  /-- Nothing is lost while the subscription lasts. -/
  complete : subscribed → taken ++ queued ++ pending = arrived

namespace Accounted

variable {subscribed : Prop} {arrived taken queued pending : List α}

/-- Nothing has arrived at first. -/
theorem empty (subscribed : Prop) : Accounted subscribed ([] : List α) [] [] [] :=
  ⟨List.prefix_refl _, fun _ => rfl⟩

/-- Ending a subscription moves no message. -/
theorem leave (accounted : Accounted subscribed arrived taken queued pending) {later : Prop}
    (ended : later → subscribed) : Accounted later arrived taken queued pending :=
  ⟨accounted.ordered, fun still => accounted.complete (ended still)⟩

/-- A message arrives for a subscriber with nothing pending. -/
theorem arrive (accounted : Accounted subscribed arrived taken queued []) (holds : subscribed)
    (message : α) : Accounted subscribed (arrived ++ [message]) taken queued [message] := by
  have whole : taken ++ queued ++ [message] = arrived ++ [message] := by
    rw [← accounted.complete holds, List.append_nil]
  exact ⟨whole ▸ List.prefix_refl _, fun _ => whole⟩

/-- A message that arrives without a subscription goes nowhere. -/
theorem miss (accounted : Accounted subscribed arrived taken queued pending)
    (ended : ¬ subscribed) (message : α) :
    Accounted subscribed (arrived ++ [message]) taken queued pending :=
  ⟨accounted.ordered.trans (List.prefix_append _ _), fun still => absurd still ended⟩

/-- A pending message is put into the queue. -/
theorem deliver {message : α}
    (accounted : Accounted subscribed arrived taken queued [message]) :
    Accounted subscribed arrived taken (queued ++ [message]) [] := by
  refine ⟨?_, ?_⟩
  · simpa using accounted.ordered
  · intro holds
    simpa using accounted.complete holds

/-- A pending message is dropped once the subscription has ended. -/
theorem drop (accounted : Accounted subscribed arrived taken queued pending)
    (ended : ¬ subscribed) : Accounted subscribed arrived taken queued [] := by
  refine ⟨?_, fun still => absurd still ended⟩
  rw [List.append_nil]
  exact (List.prefix_append _ pending).trans accounted.ordered

/-- The subscriber takes the first message of its queue. -/
theorem take {message : α}
    (accounted : Accounted subscribed arrived taken (message :: queued) pending) :
    Accounted subscribed arrived (taken ++ [message]) queued pending := by
  refine ⟨?_, ?_⟩
  · simpa using accounted.ordered
  · intro holds
    simpa using accounted.complete holds

/-- What was taken is a beginning of what arrived. -/
theorem taken_prefix (accounted : Accounted subscribed arrived taken queued pending) :
    taken <+: arrived := by
  have front : taken <+: taken ++ queued ++ pending := by
    rw [List.append_assoc]
    exact List.prefix_append taken (queued ++ pending)
  exact front.trans accounted.ordered

end Accounted

end DifyPlugin.Delivery
