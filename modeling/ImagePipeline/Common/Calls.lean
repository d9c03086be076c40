/-
One call to a service over the network. The service answers, or the call raises
in the caller; a call that raises may have taken effect on the server or not.
-/

import ImagePipeline.Common.Json

namespace ImagePipeline.Common

/-- What a failing call raises in the client. -/
inductive Fault where
  | redisError
  | redisTimeout
  | other
  deriving DecidableEq

def Fault.exn : Fault → Exn
  | .redisError => .redisError
  | .redisTimeout => .redisTimeout
  | .other => .other

theorem Fault.exn_isHttp (fault : Fault) : fault.exn.isHttp = false := by
  cases fault <;> rfl

inductive Reply where
  | answered
  | raised (fault : Fault) (applied : Bool)
  deriving DecidableEq

/-- Whether the server carries a write out. -/
def Reply.takesEffect : Reply → Bool
  | .answered => true
  | .raised _ applied => applied

/-- The call returns, or it raises a `RedisError`. -/
def Reply.redisOnly : Reply → Bool
  | .answered => true
  | .raised fault _ => fault.exn.isRedisError

/-- The call has an effect only if it returns. -/
def Reply.faithful : Reply → Bool
  | .answered => true
  | .raised _ applied => !applied

theorem Reply.answered_of_faithful {reply : Reply} (faithful : reply.faithful = true)
    (took : reply.takesEffect = true) : reply = .answered := by
  cases reply with
  | answered => rfl
  | raised fault applied =>
      cases applied with
      | false => cases took
      | true => cases faithful

/-- Whether the caller sees the call return. -/
def Reply.result : Reply → Except Exn Unit
  | .answered => .ok ()
  | .raised fault _ => .error fault.exn

theorem Reply.takesEffect_or (reply : Reply) :
    reply.takesEffect = true ∨ ∃ fault, reply = .raised fault false := by
  cases reply with
  | answered => exact .inl rfl
  | raised fault applied =>
      cases applied with
      | false => exact .inr ⟨fault, rfl⟩
      | true => exact .inl rfl

/-- The two ends of a write call: what the server holds afterwards and what
the caller sees. -/
def Reply.write {α : Type} (reply : Reply) (before after : α) : α × Except Exn Unit :=
  (if reply.takesEffect then after else before, reply.result)

/-- The caller's view of a call that changes nothing. -/
def Reply.read {α : Type} (reply : Reply) (value : Except Exn α) : Except Exn α :=
  match reply with
  | .answered => value
  | .raised fault _ => .error fault.exn

theorem Reply.read_error {α : Type} {reply : Reply} {value : Except Exn α} {raised : Exn}
    (failed : reply.read value = .error raised) :
    value = .error raised ∨ raised.isHttp = false := by
  cases reply with
  | answered => exact .inl failed
  | raised fault applied =>
      cases failed
      exact .inr fault.exn_isHttp

theorem Reply.read_ok {α : Type} {reply : Reply} {value : Except Exn α} {found : α}
    (succeeded : reply.read value = .ok found) : reply = .answered ∧ value = .ok found := by
  cases reply with
  | answered => exact ⟨rfl, succeeded⟩
  | raised fault applied => cases succeeded

end ImagePipeline.Common
