/-
The queue client between Redis and the workers. `get_next_job` answers None for
a nil reply and for a client-side timeout alike, but a timeout may come after
the server has removed an id; that id reaches no worker.
-/

import ImagePipeline.Common.Stores
import ImagePipeline.Library.Machine
import Mathlib.Data.List.Perm.Basic

namespace ImagePipeline.Properties.QueueClient

open Common
open Library (Machine FifoLog)

/-- One queue with the history of the `get_next_job` calls on it: what they
returned to which worker, and what the server removed for calls that raised. -/
structure QueueRun (W : Type) where
  queue : JobQueue
  returned : List (W × JobId)
  dropped : List JobId

inductive QueueEvent (W : Type) where
  | pushJob (jobId : JobId) (reply : Reply)
  | getNextJob (worker : W) (reply : Reply)

namespace QueueRun

variable {W : Type}

def initial : QueueRun W := ⟨.empty, [], []⟩

def afterPush (state : QueueRun W) (jobId : JobId) (reply : Reply) : QueueRun W :=
  { state with queue := (pushJob state.queue jobId reply).1 }

def afterGet (state : QueueRun W) (worker : W) (reply : Reply) : QueueRun W :=
  let (queue, answer) := getNextJob state.queue reply
  { queue
    returned := match answer with
      | .ok (some jobId) => state.returned ++ [(worker, jobId)]
      | _ => state.returned
    dropped := match reply, state.queue.pop? with
      | .raised _ true, some (jobId, _) => state.dropped ++ [jobId]
      | _, _ => state.dropped }

def step (state : QueueRun W) : QueueEvent W → Option (QueueRun W)
  | .pushJob jobId reply => some (state.afterPush jobId reply)
  | .getNextJob worker reply => some (state.afterGet worker reply)

end QueueRun

def queueMachine (W : Type) : Machine (QueueRun W) (QueueEvent W) :=
  { initial := .initial
    step := QueueRun.step }

/-- BRPOP returns, or it raises the `redis` timeout before or after the server
has removed an id. Pushes may end in any way. -/
def timeouts {W : Type} (_ : QueueRun W) : QueueEvent W → Bool
  | .pushJob _ _ => true
  | .getNextJob _ .answered => true
  | .getNextJob _ (.raised fault _) => fault = .redisTimeout

section Results

variable {W : Type} {state : QueueRun W}

/-- The removed ids, as far as calls returned them or dropped them. -/
def Accounted (state : QueueRun W) : Prop :=
  state.queue.popped.Perm (state.returned.map Prod.snd ++ state.dropped)

theorem Accounted.initial : Accounted (.initial : QueueRun W) := List.Perm.refl []

theorem Accounted.afterPush (accounted : Accounted state) (jobId : JobId) (reply : Reply) :
    Accounted (state.afterPush jobId reply) := by
  unfold Accounted QueueRun.afterPush pushJob Reply.write
  split
  · exact accounted
  · exact accounted

theorem afterGet_cases (state : QueueRun W) (worker : W) (reply : Reply) :
    ((state.afterGet worker reply).queue = state.queue ∧
      (state.afterGet worker reply).returned = state.returned ∧
      (state.afterGet worker reply).dropped = state.dropped) ∨
    ∃ jobId rest, state.queue.pop? = some (jobId, rest) ∧
      (state.afterGet worker reply).queue = rest ∧
      ((reply = .answered ∧ (getNextJob state.queue reply).2 = .ok (some jobId) ∧
        (state.afterGet worker reply).returned = state.returned ++ [(worker, jobId)] ∧
        (state.afterGet worker reply).dropped = state.dropped) ∨
      ((∃ fault, reply = .raised fault true) ∧
        (state.afterGet worker reply).returned = state.returned ∧
        (state.afterGet worker reply).dropped = state.dropped ++ [jobId])) := by
  have nothing (fault : Fault) (applied : Bool) :
      (state.afterGet worker (.raised fault applied)).returned = state.returned := by
    cases fault <;> rfl
  cases reply with
  | answered =>
      cases popped : state.queue.pop? with
      | none => exact .inl (by simp only [QueueRun.afterGet, getNextJob, popped, and_self])
      | some pair =>
          refine .inr ⟨pair.1, pair.2, rfl, ?_, .inl ⟨rfl, ?_, ?_, rfl⟩⟩ <;>
            simp only [QueueRun.afterGet, getNextJob, popped]
  | raised fault applied =>
      cases applied with
      | false => exact .inl ⟨rfl, nothing fault false, rfl⟩
      | true =>
          cases popped : state.queue.pop? with
          | none =>
              refine .inl ⟨?_, nothing fault true, ?_⟩ <;>
                simp only [QueueRun.afterGet, getNextJob, popped, if_true]
          | some pair =>
              refine .inr ⟨pair.1, pair.2, rfl, ?_, .inr ⟨⟨fault, rfl⟩, nothing fault true, ?_⟩⟩ <;>
                simp only [QueueRun.afterGet, getNextJob, popped, if_true]

theorem Accounted.afterGet (accounted : Accounted state) (worker : W) (reply : Reply) :
    Accounted (state.afterGet worker reply) := by
  unfold Accounted at accounted ⊢
  rcases afterGet_cases state worker reply with
    ⟨queue, returned, dropped⟩ | ⟨jobId, rest, popped, queue, removed⟩
  · rw [queue, returned, dropped]
    exact accounted
  · rw [queue, (FifoLog.pop?_spec popped).2.2]
    have grown : (state.queue.popped ++ [jobId]).Perm
        (state.returned.map Prod.snd ++ state.dropped ++ [jobId]) := accounted.append_right [jobId]
    rcases removed with ⟨_, _, returned, dropped⟩ | ⟨_, returned, dropped⟩
    · rw [returned, dropped, List.map_append, List.map_singleton]
      apply grown.trans
      rw [List.append_assoc, List.append_assoc]
      exact List.perm_append_comm.append_left _
    · rw [returned, dropped, ← List.append_assoc]
      exact grown

theorem accounted_of_reachable {permits : QueueRun W → QueueEvent W → Bool}
    (reached : (queueMachine W).Reachable permits state) : Accounted state := by
  apply reached.invariant Accounted .initial
  intro before event after _ accounted _ stepped
  cases event with
  | pushJob jobId reply =>
      cases stepped
      exact accounted.afterPush jobId reply
  | getNextJob worker reply =>
      cases stepped
      exact accounted.afterGet worker reply

/-- Every removed id was returned by one call to one worker, or dropped by a
call whose reply did not arrive. A None answer leaves the queue as it is unless
it is for such a call, which then drops exactly one id. -/
theorem removed_ids_are_returned_or_dropped
    (reached : (queueMachine W).Reachable timeouts state) :
    state.queue.popped.Perm (state.returned.map Prod.snd ++ state.dropped) ∧
    ∀ worker reply after, state.step (.getNextJob worker reply) = some after →
      (getNextJob state.queue reply).2 = .ok none →
        after.queue = state.queue ∨
          ∃ fault jobId, reply = .raised fault true ∧
            state.queue.items = after.queue.items ++ [jobId] ∧
            after.returned = state.returned ∧ after.dropped = state.dropped ++ [jobId] := by
  refine ⟨accounted_of_reachable reached, ?_⟩
  intro worker reply after stepped nothing
  cases stepped
  rcases afterGet_cases state worker reply with
    ⟨queue, _⟩ | ⟨jobId, rest, popped, queue, removed⟩
  · exact .inl queue
  · rcases removed with ⟨_, returns, _⟩ | ⟨⟨fault, raised⟩, returned, dropped⟩
    · rw [returns] at nothing
      cases nothing
    · refine .inr ⟨fault, jobId, raised, ?_, returned, dropped⟩
      rw [queue]
      exact (FifoLog.pop?_spec popped).1

/-- The reply to BRPOP comes too late for the client. -/
def lateReply : List (QueueEvent Unit) :=
  [.pushJob firstJob .answered, .getNextJob () (.raised .redisTimeout true)]

theorem removed_ids_are_returned_or_dropped_late :
    ∃ state : QueueRun Unit, state.queue.popped = [firstJob] ∧ state.returned = [] ∧
      state.queue.popped.Perm (state.returned.map Prod.snd ++ state.dropped) :=
  ⟨(queueMachine Unit).finalState timeouts lateReply, by decide, by decide,
    (removed_ids_are_returned_or_dropped (.finalState lateReply)).1⟩

/-- Not every removed id is returned to a worker. -/
theorem removed_ids_can_be_dropped :
    ¬ ∀ state : QueueRun Unit, (queueMachine Unit).Reachable timeouts state →
      state.queue.popped.Perm (state.returned.map Prod.snd) := by
  intro returned
  let state := (queueMachine Unit).finalState timeouts lateReply
  have popped : state.queue.popped = [firstJob] := by decide
  have nothing : state.returned = [] := by decide
  have claimed := (returned state (.finalState lateReply)).length_eq
  rw [popped, nothing] at claimed
  cases claimed

end Results

end ImagePipeline.Properties.QueueClient
