/-
A double-ended list used as a queue (pushed on the left, popped on the right)
that carries its own history. The history is not state of the queue: no
operation reads it. It is kept because delivery statements speak about every
item that was ever pushed or popped.
-/

import Mathlib.Data.List.Nodup

namespace ImagePipeline.Library

structure FifoLog (α : Type) where
  items : List α
  pushed : List α
  popped : List α
  order : pushed = popped ++ items.reverse

namespace FifoLog

variable {α : Type}

def empty : FifoLog α :=
  { items := []
    pushed := []
    popped := []
    order := rfl }

def push (queue : FifoLog α) (item : α) : FifoLog α :=
  { items := item :: queue.items
    pushed := queue.pushed ++ [item]
    popped := queue.popped
    order := by rw [queue.order, List.reverse_cons, List.append_assoc] }

/-- The rightmost item, that is the one pushed first, with the rest. -/
def pop? (queue : FifoLog α) : Option (α × FifoLog α) :=
  if nonempty : queue.items = [] then none
  else some (queue.items.getLast nonempty,
    { items := queue.items.dropLast
      pushed := queue.pushed
      popped := queue.popped ++ [queue.items.getLast nonempty]
      order := by
        have split := List.dropLast_append_getLast nonempty
        conv_lhs => rw [queue.order, ← split]
        rw [List.reverse_append, List.reverse_singleton, List.append_assoc] })

@[simp] theorem push_items (queue : FifoLog α) (item : α) :
    (queue.push item).items = item :: queue.items := rfl

@[simp] theorem push_pushed (queue : FifoLog α) (item : α) :
    (queue.push item).pushed = queue.pushed ++ [item] := rfl

@[simp] theorem push_popped (queue : FifoLog α) (item : α) :
    (queue.push item).popped = queue.popped := rfl

/-- Everything a pop does: the last item leaves, and only that. -/
theorem pop?_spec {queue rest : FifoLog α} {item : α} (found : queue.pop? = some (item, rest)) :
    queue.items = rest.items ++ [item] ∧ rest.pushed = queue.pushed ∧
      rest.popped = queue.popped ++ [item] := by
  unfold pop? at found
  split at found
  · cases found
  · rename_i nonempty
    simp only [Option.some.injEq, Prod.mk.injEq] at found
    obtain ⟨rfl, rfl⟩ := found
    exact ⟨(List.dropLast_append_getLast nonempty).symm, rfl, rfl⟩

theorem exists_pop? {queue : FifoLog α} (nonempty : queue.items ≠ []) :
    ∃ item rest, queue.pop? = some (item, rest) := ⟨_, _, dif_neg nonempty⟩

theorem mem_pushed {queue : FifoLog α} {item : α} :
    item ∈ queue.pushed ↔ item ∈ queue.popped ∨ item ∈ queue.items := by
  rw [queue.order, List.mem_append, List.mem_reverse]

theorem popped_prefix (queue : FifoLog α) : queue.popped <+: queue.pushed :=
  ⟨queue.items.reverse, queue.order.symm⟩

theorem nodup_iff {queue : FifoLog α} :
    queue.pushed.Nodup ↔ (queue.popped ++ queue.items).Nodup := by
  have same : (queue.popped ++ queue.items.reverse).Perm (queue.popped ++ queue.items) :=
    (List.reverse_perm queue.items).append_left queue.popped
  rw [queue.order, same.nodup_iff]

theorem not_popped_of_waiting {queue : FifoLog α} (distinct : queue.pushed.Nodup) {item : α}
    (waiting : item ∈ queue.items) : item ∉ queue.popped := by
  intro gone
  exact (List.nodup_append.mp (nodup_iff.mp distinct)).2.2 item gone item waiting rfl

section Ahead

variable [DecidableEq α]

/-- How many items leave before the item does. -/
def ahead (queue : FifoLog α) (item : α) : Nat := queue.items.reverse.idxOf item

theorem ahead_push {queue : FifoLog α} {item : α} (waiting : item ∈ queue.items) (other : α) :
    (queue.push other).ahead item = queue.ahead item := by
  unfold ahead
  rw [push_items, List.reverse_cons]
  exact List.idxOf_append_of_mem (List.mem_reverse.mpr waiting)

/-- An item that is not popped comes one place forward. -/
theorem ahead_pop {queue rest : FifoLog α} {first item : α}
    (found : queue.pop? = some (first, rest)) (different : first ≠ item) :
    queue.ahead item = rest.ahead item + 1 := by
  unfold ahead
  rw [(pop?_spec found).1, List.reverse_append, List.reverse_singleton, List.singleton_append]
  exact List.idxOf_cons_ne _ different

end Ahead

end FifoLog

end ImagePipeline.Library
