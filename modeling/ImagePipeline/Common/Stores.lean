/-
The three services behind the API and the workers: the jobs table in
PostgreSQL, the two lists in Redis, the objects in MinIO.
-/

import ImagePipeline.Common.Calls
import ImagePipeline.Common.JobRepository
import ImagePipeline.Common.Models
import ImagePipeline.Library.FifoLog
import Mathlib.Logic.Function.Basic

namespace ImagePipeline.Common

open Library (FifoLog)

/-! ### Redis

Ids are pushed on the left of a list and popped from its right end, one atomic
command each.
-/

inductive QueueName where
  | jobsDefault
  | jobsHeavy
  deriving DecidableEq

abbrev JobQueue := FifoLog JobId

/-- `RedisQueueClient.get_next_job`: the list after BRPOP and what the caller
gets. A `redis` timeout is turned into `None`, whether or not the server had
already removed an element; every other error goes to the caller. -/
def getNextJob (queue : JobQueue) : Reply → JobQueue × Except Exn (Option JobId)
  | .answered =>
      match queue.pop? with
      | none => (queue, .ok none)
      | some (jobId, rest) => (rest, .ok (some jobId))
  | .raised fault applied =>
      let left := match queue.pop? with
        | none => queue
        | some (_, rest) => rest
      (if applied then left else queue,
        match fault with
        | .redisTimeout => .ok none
        | raised => .error raised.exn)

/-- `RedisQueueClient.push_job`. -/
def pushJob (queue : JobQueue) (jobId : JobId) (reply : Reply) : JobQueue × Except Exn Unit :=
  reply.write queue (queue.push jobId)

/-- `RedisQueueClient.length`. -/
def queueLength (queue : JobQueue) (reply : Reply) : Except Exn Nat :=
  reply.read (.ok queue.items.length)

/-! ### MinIO

A linearizable map from literal keys to bytes.
-/

abbrev Objects := Str → Option Bytes

/-- `ObjectStorageClient.upload`. -/
def upload (objects : Objects) (key : Str) (data : Bytes) (reply : Reply) :
    Objects × Except Exn Unit :=
  reply.write objects (Function.update objects key (some data))

/-- `ObjectStorageClient.download`; a missing key raises. -/
def download (objects : Objects) (key : Str) (reply : Reply) : Except Exn Bytes :=
  reply.read (match objects key with
    | some data => .ok data
    | none => .error .other)

/-! ### The services together -/

structure Stores where
  jobs : JobsTable
  queues : QueueName → JobQueue
  objects : Objects

namespace Stores

def empty : Stores :=
  { jobs := .empty
    queues := fun _ => .empty
    objects := fun _ => none }

def setQueue (stores : Stores) (name : QueueName) (queue : JobQueue) : Stores :=
  { stores with queues := Function.update stores.queues name queue }

@[simp] theorem setQueue_same (stores : Stores) (name : QueueName) (queue : JobQueue) :
    (stores.setQueue name queue).queues name = queue := Function.update_self ..

theorem setQueue_other (stores : Stores) {name other : QueueName} (queue : JobQueue)
    (different : other ≠ name) : (stores.setQueue name queue).queues other = stores.queues other :=
  Function.update_of_ne different ..

@[simp] theorem setQueue_self (stores : Stores) (name : QueueName) :
    stores.setQueue name (stores.queues name) = stores := by
  simp only [setQueue, Function.update_eq_self]

end Stores

end ImagePipeline.Common
