import GraphQLClient.Future

/-!
Retry policies: asked after a failed attempt, they take the time they need and say whether there is
to be another.
-/

namespace GraphQLClient

/-- What a policy knows of the call besides the failure and the number of the attempt. -/
structure CallInfo (κ : Type) where
  client : κ
  request : OperationRequest
  settings : CallSettings

/-- Whether to try again after the attempt of this number, counted from one, has failed. -/
abbrev RetryPolicy (κ σ : Type) := CallInfo κ → (attempt : UInt32) → Failure → Future σ Bool

namespace RetryPolicy

variable {κ σ : Type}

def never : RetryPolicy κ σ := fun _ _ _ => .done false

/-- A policy that decides at once. -/
def ofTest (test : CallInfo κ → UInt32 → Failure → Bool) : RetryPolicy κ σ :=
  fun info attempt failure => .done (test info attempt failure)

end RetryPolicy

end GraphQLClient
